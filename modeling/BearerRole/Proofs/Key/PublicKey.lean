import BearerRole.Key.PublicKey
import BearerRole.Proofs.Key.Der

/-!
The binary forms of RSA keys. A key that is written reads back if its numbers are those of a usable key, and nothing reads as an RSA key
but the forms of one: bare, or as the value of an algorithm identifier that names an RSA scheme.
-/

namespace BearerRole

set_option autoImplicit false

open Der (Element)

namespace AlgorithmIdentifier

def element (a : AlgorithmIdentifier) : Element :=
  ⟨Der.sequenceTag, (⟨Der.oidTag, a.oid⟩ :: a.parameters).flatMap Element.encode⟩

structure IsWritable (a : AlgorithmIdentifier) : Prop where
  arcs : isOid a.oid = true
  low : ∀ p ∈ a.parameters, p.IsLow

theorem oid_low (oid : Bytes) : (Element.mk Der.oidTag oid).IsLow := by
  show Der.oidTag.toNat % 32 ≠ 31
  decide

theorem decode_eq_some_iff {e : Element} (short : e.content.length < Der.lengthLimit) {a : AlgorithmIdentifier} :
    decode e = some a ↔ a.IsWritable ∧ e = a.element := by
  unfold decode
  constructor
  · intro read
    split at read
    · next oid parameters members =>
        obtain ⟨tagged, low, content⟩ := (Der.members_eq_some_iff short).mp members
        split at read
        · next named =>
            cases read
            refine ⟨⟨named.2, fun p member => low p (List.mem_cons_of_mem oid member)⟩, ?_⟩
            rw [element, ← named.1, ← tagged]
            show e = ⟨e.tag, (oid :: parameters).flatMap Element.encode⟩
            rw [← content]
        · cases read
    · cases read
  · rintro ⟨writable, rfl⟩
    have members : a.element.members? = some (⟨Der.oidTag, a.oid⟩ :: a.parameters) :=
      (Der.members_eq_some_iff short).mpr ⟨rfl, List.forall_mem_cons.mpr ⟨oid_low a.oid, writable.low⟩, rfl⟩
    rw [members]
    simp only [writable.arcs, and_self, if_true]

end AlgorithmIdentifier

namespace RsaKey

theorem natural_low (n : Nat) : (Element.natural n).IsLow := by
  show Der.integerTag.toNat % 32 ≠ 31
  decide

theorem bare_low (key : RsaKey) : ∀ e ∈ [Element.natural key.modulus, Element.natural key.exponent], e.IsLow :=
  List.forall_mem_cons.mpr ⟨natural_low _, List.forall_mem_singleton.mpr (natural_low _)⟩

theorem decode_bare_encode {key : RsaKey} (short : key.encodeBare.length < Der.lengthLimit) :
    decodeBare key.encodeBare = if key.isUsable then some key else none := by
  have members : Der.sequence? key.encodeBare = some [.natural key.modulus, .natural key.exponent] :=
    Der.sequence_eq_some_iff.mpr ⟨Der.sequence_short short, bare_low key, rfl⟩
  rw [decodeBare, members]
  simp only [Der.natural_eq_some_iff.mpr rfl, Option.bind_eq_bind, Option.bind_some]

theorem of_decode_bare {bytes : Bytes} {key : RsaKey} (read : decodeBare bytes = some key) :
    key.isUsable = true ∧ bytes = key.encodeBare := by
  unfold decodeBare at read
  split at read
  · next first second members =>
      obtain ⟨modulus, readModulus, read⟩ := Option.bind_eq_some_iff.mp read
      obtain ⟨exponent, readExponent, read⟩ := Option.bind_eq_some_iff.mp read
      dsimp only at read
      split at read
      · next usable =>
          cases read
          refine ⟨usable, ?_⟩
          rw [(Der.sequence_eq_some_iff.mp members).2.2, Der.natural_eq_some_iff.mp readModulus,
            Der.natural_eq_some_iff.mp readExponent]
          rfl
      · cases read
  · cases read

end RsaKey

namespace PublicKey

def form (algorithm : AlgorithmIdentifier) (value : Bytes) : Bytes :=
  Der.encodeSequence [algorithm.element, Der.bitString value]

theorem form_low (algorithm : AlgorithmIdentifier) (value : Bytes) :
    ∀ e ∈ [algorithm.element, Der.bitString value], e.IsLow := by
  have tagged : (Der.bitString value).IsLow := by
    show Der.bitStringTag.toNat % 32 ≠ 31
    decide
  exact List.forall_mem_cons.mpr ⟨Der.sequence_tag_low, List.forall_mem_singleton.mpr tagged⟩

theorem decode_form {algorithm : AlgorithmIdentifier} {value : Bytes} (writable : algorithm.IsWritable)
    (short : (form algorithm value).length < Der.lengthLimit) :
    decode (form algorithm value) = ofParts? algorithm value := by
  have fits := Der.sequence_short short
  have members : Der.sequence? (form algorithm value) = some [algorithm.element, Der.bitString value] :=
    Der.sequence_eq_some_iff.mpr ⟨fits, form_low algorithm value, rfl⟩
  have named : AlgorithmIdentifier.decode algorithm.element = some algorithm :=
    (AlgorithmIdentifier.decode_eq_some_iff (Der.member_length_lt fits List.mem_cons_self)).mpr ⟨writable, rfl⟩
  rw [decode, members]
  simp only [Option.bind_eq_bind, Option.bind_some, named, Der.bit_string_eq_some_iff.mpr rfl]

theorem of_decode {bytes : Bytes} {key : PublicKey} (read : decode bytes = some key) :
    ∃ algorithm value, ([algorithm.element, Der.bitString value].flatMap Element.encode).length < Der.lengthLimit ∧
      bytes = form algorithm value ∧ ofParts? algorithm value = some key := by
  obtain ⟨members, found, read⟩ := Option.bind_eq_some_iff.mp read
  obtain ⟨short, _, whole⟩ := Der.sequence_eq_some_iff.mp found
  split at read
  · next named valued =>
      obtain ⟨algorithm, readAlgorithm, rest⟩ := Option.bind_eq_some_iff.mp read
      obtain ⟨value, readValue, settled⟩ := Option.bind_eq_some_iff.mp rest
      obtain ⟨_, rfl⟩ := (AlgorithmIdentifier.decode_eq_some_iff (Der.member_length_lt short List.mem_cons_self)).mp readAlgorithm
      rw [Der.bit_string_eq_some_iff] at readValue
      cases readValue
      exact ⟨algorithm, value, short, whole, settled⟩
  · cases read

theorem elliptic_curve_other {parameters : List Element} {bytes : Bytes} {key : PublicKey}
    (read : ellipticCurve? parameters bytes = some key) : key = .other .ellipticCurve := by
  have held : ∀ curve : Curve, (if curve.holds bytes then some (PublicKey.other .ellipticCurve) else none) = some key →
      key = .other .ellipticCurve := by
    intro curve found
    split at found
    · exact (Option.some.inj found).symm
    · cases found
  unfold ellipticCurve? at read
  split at read
  · dsimp only at read
    split at read
    · next curve _ => exact held curve read
    · obtain ⟨curve, _, found⟩ := Option.bind_eq_some_iff.mp read
      exact held curve found
  · cases read

theorem number_other {family : OtherFamily} {count : Nat} {goesOn : List Element → Bool} {parameters : List Element}
    {bytes : Bytes} {key : PublicKey} (read : number? family count goesOn parameters bytes = some key) :
    key = .other family := by
  unfold number? at read
  split at read
  · obtain ⟨members, _, read⟩ := Option.bind_eq_some_iff.mp read
    obtain ⟨numbers, _, read⟩ := Option.bind_eq_some_iff.mp read
    split at read
    · obtain ⟨_, _, read⟩ := Option.bind_eq_some_iff.mp read
      split at read
      · exact (Option.some.inj read).symm
      · cases read
    · cases read
  · cases read

theorem byte_string_other {bytes : Bytes} {length : Nat} {family : OtherFamily} {key : PublicKey}
    (read : byteString? bytes length family = some key) : key = .other family := by
  unfold byteString? at read
  dsimp only at read
  split at read
  · exact (Option.some.inj read).symm
  · cases read

/-- The algorithms whose keys are RSA keys: encryption and signatures, and signatures by the probabilistic scheme. -/
def IsRsaScheme (oid : Bytes) : Prop := oid = AlgorithmIdentifier.rsaOid ∨ oid = AlgorithmIdentifier.rsaPssOid

theorem of_parts_eq_rsa_iff {algorithm : AlgorithmIdentifier} {value : Bytes} {key : RsaKey} :
    ofParts? algorithm value = some (.rsa key) ↔
      IsRsaScheme algorithm.oid ∧ algorithm.isValid = true ∧ RsaKey.decodeBare value = some key := by
  unfold ofParts? IsRsaScheme
  by_cases scheme : algorithm.oid = AlgorithmIdentifier.rsaOid ∨ algorithm.oid = AlgorithmIdentifier.rsaPssOid
  · by_cases valid : algorithm.isValid = true
    · simp [scheme, valid]
    · simp [scheme, valid]
  · refine iff_of_false ?_ (fun facts => scheme facts.1)
    simp only [if_neg scheme]
    intro read
    split at read
    · cases elliptic_curve_other read
    · split at read
      · cases number_other read
      · split at read
        · cases number_other read
        · split at read
          · cases number_other read
          · split at read
            · cases byte_string_other read
            · cases read

def rsaAlgorithm : AlgorithmIdentifier := ⟨AlgorithmIdentifier.rsaOid, [⟨Der.nullTag, []⟩]⟩

theorem rsa_algorithm_facts : rsaAlgorithm.IsWritable ∧ IsRsaScheme rsaAlgorithm.oid ∧ rsaAlgorithm.isValid = true := by
  refine ⟨⟨by decide, ?_⟩, .inl rfl, by decide +kernel⟩
  exact List.forall_mem_singleton.mpr (by show Der.nullTag.toNat % 32 ≠ 31; decide)

theorem encode_eq_form (key : RsaKey) : key.encode = form rsaAlgorithm key.encodeBare := rfl

theorem encode_bare_lt (key : RsaKey) : key.encodeBare.length < key.encode.length := by
  have member : Der.bitString key.encodeBare ∈ [rsaAlgorithm.element, Der.bitString key.encodeBare] :=
    List.mem_cons_of_mem _ List.mem_cons_self
  calc
    key.encodeBare.length < (Der.bitString key.encodeBare).content.length := Nat.lt_succ_self _
    _ < (Der.bitString key.encodeBare).encode.length := Element.content_lt_encode _
    _ ≤ ([rsaAlgorithm.element, Der.bitString key.encodeBare].flatMap Element.encode).length := Der.encode_length_le member
    _ < key.encode.length := Element.content_lt_encode ⟨Der.sequenceTag, _⟩

theorem decode_encode {key : RsaKey} (short : key.encode.length < Der.lengthLimit) :
    decode key.encode = if key.isUsable then some (.rsa key) else none := by
  obtain ⟨writable, scheme, valid⟩ := rsa_algorithm_facts
  have bare := RsaKey.decode_bare_encode (Nat.lt_trans (encode_bare_lt key) short)
  rw [encode_eq_form, decode_form writable short]
  split
  · next usable =>
      rw [if_pos usable] at bare
      exact of_parts_eq_rsa_iff.mpr ⟨scheme, valid, bare⟩
  · next unusable =>
      rw [if_neg unusable] at bare
      have known : rsaAlgorithm.oid = AlgorithmIdentifier.rsaOid ∨ rsaAlgorithm.oid = AlgorithmIdentifier.rsaPssOid := scheme
      rw [ofParts?, if_pos known, if_pos valid, bare]
      rfl

/-- Bytes that begin as a key of the named algorithm, whatever its parameters and its value are. -/
inductive Names (oid : Bytes) : Bytes → Prop
  | key (parameters value : Bytes) :
      Names oid (Element.mk Der.sequenceTag
        ((Element.mk Der.sequenceTag ((Element.mk Der.oidTag oid).encode ++ parameters)).encode ++ value)).encode

theorem oid_of_form {oid bytes : Bytes} {algorithm : AlgorithmIdentifier} {value : Bytes}
    (short : ([algorithm.element, Der.bitString value].flatMap Element.encode).length < Der.lengthLimit)
    (names : Names oid bytes) (whole : bytes = form algorithm value) : algorithm.oid = oid := by
  obtain ⟨parameters, rest⟩ := names
  let named : Element := ⟨Der.oidTag, oid⟩
  let identifier : Element := ⟨Der.sequenceTag, named.encode ++ parameters⟩
  have contents : identifier.encode ++ rest = [algorithm.element, Der.bitString value].flatMap Element.encode :=
    congrArg Element.content (Element.encode_injective whole)
  have shortAlgorithm : algorithm.element.content.length < Der.lengthLimit :=
    Der.member_length_lt short List.mem_cons_self
  have shortIdentifier : identifier.content.length < Der.lengthLimit := by
    rw [← contents, List.length_append] at short
    have inside := identifier.content_lt_encode
    omega
  have shortNamed : named.content.length < Der.lengthLimit := by
    have outside : (named.encode ++ parameters).length < Der.lengthLimit := shortIdentifier
    rw [List.length_append] at outside
    have inside := named.content_lt_encode
    omega
  have sameIdentifier : identifier = algorithm.element :=
    Element.front_unique Der.sequence_tag_low Der.sequence_tag_low shortIdentifier shortAlgorithm contents
  have sameNamed : named = ⟨Der.oidTag, algorithm.oid⟩ :=
    Element.front_unique (AlgorithmIdentifier.oid_low oid) (AlgorithmIdentifier.oid_low algorithm.oid) shortNamed
      (Der.member_length_lt shortAlgorithm List.mem_cons_self) (congrArg Element.content sameIdentifier)
  exact (congrArg Element.content sameNamed).symm

/-- A key of another algorithm is no RSA key, in neither form. -/
theorem not_rsa_of_names {oid bytes : Bytes} (names : Names oid bytes) (other : ¬IsRsaScheme oid) (key : RsaKey) :
    decode bytes ≠ some (.rsa key) ∧ RsaKey.decodeBare bytes ≠ some key := by
  constructor
  · intro read
    obtain ⟨algorithm, value, short, whole, parts⟩ := of_decode read
    have scheme := (of_parts_eq_rsa_iff.mp parts).1
    rw [oid_of_form short names whole] at scheme
    exact other scheme
  · intro read
    -- The bare form begins with a number, and what names its algorithm with a sequence.
    obtain ⟨parameters, rest⟩ := names
    have contents := congrArg Element.content (Element.encode_injective (RsaKey.of_decode_bare read).2)
    have tags : Der.sequenceTag = Der.integerTag := (List.cons.inj contents).1
    exact absurd tags (by decide)

end PublicKey

end BearerRole
