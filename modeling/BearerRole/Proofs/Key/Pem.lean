import BearerRole.Key.Pem
import BearerRole.Proofs.Codec.Base64
import BearerRole.Proofs.Codec.Utf8

/-!
Blocks of key files. A block that is written reads back, whatever follows it in the file; and a block that is read stands in the file
between a line that begins it and one that ends it, with its label on both.
-/

namespace BearerRole.Pem

set_option autoImplicit false

variable {mark awaited before after t : Text} {c : CodePoint}

theorem seek_awaited (mark : Text) (nonempty : awaited ≠ []) (after : Text) :
    seek mark awaited (awaited ++ after) = some (awaited, after) := by
  induction awaited with
  | nil => exact absurd rfl nonempty
  | cons c awaited ih =>
      rw [List.cons_append, seek]
      simp only [List.head?_cons, if_true, List.tail_cons]
      cases awaited with
      | nil => rfl
      | cons d awaited =>
          rw [ih (List.cons_ne_nil d awaited)]
          rfl

theorem seek_other (other : awaited.head? ≠ some c) (marked : mark ≠ []) (t : Text) :
    seek mark awaited (c :: t) = (seek mark mark t).map fun parts => (c :: parts.1, parts.2) := by
  have nonempty : mark.isEmpty = false := List.isEmpty_eq_false_iff.mpr marked
  rw [seek, if_neg other]
  simp only [nonempty, Bool.false_eq_true, if_false]

theorem seek_passed {first : CodePoint} {rest : Text} (absent : first ∉ before) (t : Text) :
    seek (first :: rest) (first :: rest) (before ++ t) =
      (seek (first :: rest) (first :: rest) t).map fun parts => (before ++ parts.1, parts.2) := by
  induction before with
  | nil => simp
  | cons c before ih =>
      rw [List.mem_cons, not_or] at absent
      have other : (first :: rest).head? ≠ some c := by
        intro same
        exact absent.1 (Option.some.inj same)
      rw [List.cons_append, seek_other other (List.cons_ne_nil first rest), ih absent.2, Option.map_map]
      rfl

theorem cut_at_append {first : CodePoint} (begins : mark.head? = some first) (absent : first ∉ before) (after : Text) :
    cutAt mark (before ++ (mark ++ after)) = some (before, after) := by
  obtain ⟨rest, rfl⟩ := List.head?_eq_some_iff.mp begins
  rw [cutAt, seek_passed absent, seek_awaited _ (List.cons_ne_nil first rest)]
  simp

theorem cut_at_absent {first : CodePoint} (begins : mark.head? = some first) (absent : first ∉ t) : cutAt mark t = none := by
  obtain ⟨rest, rfl⟩ := List.head?_eq_some_iff.mp begins
  have found : seek (first :: rest) (first :: rest) (t ++ []) = none := seek_passed absent []
  rw [List.append_nil] at found
  rw [cutAt, found]
  rfl

theorem mark_of_seek (done : Text) (marked : mark ≠ []) (progress : done ++ awaited = mark)
    (found : seek mark awaited t = some (before, after)) :
    t = before ++ after ∧ mark <:+ done ++ before := by
  induction t generalizing awaited done before with
  | nil => cases found
  | cons c t ih =>
      by_cases next : awaited.head? = some c
      · cases awaited with
        | nil => cases next
        | cons d awaited =>
            cases next
            rw [seek] at found
            simp only [List.head?_cons, if_true, List.tail_cons] at found
            have further : (done ++ [c]) ++ awaited = mark := by
              rw [List.append_assoc]
              exact progress
            split at found
            · next complete =>
                cases found
                rw [List.isEmpty_iff.mp complete, List.append_nil] at further
                rw [further]
                exact ⟨rfl, List.suffix_refl mark⟩
            · obtain ⟨⟨front, rest⟩, later, same⟩ := Option.map_eq_some_iff.mp found
              cases same
              obtain ⟨whole, ends⟩ := ih _ further later
              rw [List.append_assoc] at ends
              exact ⟨by rw [whole]; rfl, ends⟩
      · rw [seek_other next marked] at found
        obtain ⟨⟨front, rest⟩, later, same⟩ := Option.map_eq_some_iff.mp found
        cases same
        obtain ⟨whole, ends⟩ := ih [] rfl later
        refine ⟨by rw [whole]; rfl, ?_⟩
        rw [List.append_cons]
        exact ends.trans (List.suffix_append _ _)

theorem whole_of_cut_at (marked : mark ≠ []) (found : cutAt mark t = some (before, after)) : t = before ++ mark ++ after := by
  obtain ⟨⟨front, rest⟩, sought, same⟩ := Option.map_eq_some_iff.mp found
  cases same
  obtain ⟨whole, start, ends⟩ := mark_of_seek [] marked rfl sought
  rw [List.nil_append] at ends
  rw [whole, ← ends]
  simp

theorem wrap_joined {fuel : Nat} {t : Text} (enough : t.length ≤ fuel) : (wrap fuel t).flatten = t := by
  induction fuel generalizing t with
  | zero =>
      rw [List.length_eq_zero_iff.mp (Nat.le_zero.mp enough)]
      rfl
  | succ fuel ih =>
      rw [wrap]
      split
      · next empty =>
          rw [List.isEmpty_iff.mp empty]
          rfl
      · next nonempty =>
          have left : 0 < t.length := List.length_pos_iff.mpr fun empty => nonempty (List.isEmpty_iff.mpr empty)
          have shorter : (t.drop 64).length ≤ fuel := by
            rw [List.length_drop]
            omega
          rw [List.flatten_cons, ih shorter, List.take_append_drop]

theorem line_ne_nil {fuel : Nat} {t line : Text} (member : line ∈ wrap fuel t) : line ≠ [] := by
  induction fuel generalizing t with
  | zero => cases member
  | succ fuel ih =>
      rw [wrap] at member
      split at member
      · cases member
      · next nonempty =>
          rcases List.mem_cons.mp member with rfl | later
          · intro empty
            rw [List.take_eq_nil_iff] at empty
            exact nonempty (List.isEmpty_iff.mpr (empty.resolve_left (by decide)))
          · exact ih later

theorem mem_of_line {fuel : Nat} {t line : Text} (member : line ∈ wrap fuel t) : ∀ c ∈ line, c ∈ t := by
  induction fuel generalizing t with
  | zero => cases member
  | succ fuel ih =>
      rw [wrap] at member
      split at member
      · cases member
      · intro c inside
        rcases List.mem_cons.mp member with rfl | later
        · exact List.mem_of_mem_take inside
        · exact List.mem_of_mem_drop (ih later c inside)

theorem no_empty_line {lines : List Text} (full : ∀ line ∈ lines, line ≠ [] ∧ 10 ∉ line) :
    seek [10, 10] [10, 10] (lines.flatMap (· ++ [10])) = none ∧ seek [10, 10] [10] (lines.flatMap (· ++ [10])) = none := by
  induction lines with
  | nil => exact ⟨rfl, rfl⟩
  | cons line lines ih =>
      obtain ⟨_, afterLine⟩ := ih fun other member => full other (List.mem_cons_of_mem line member)
      obtain ⟨nonempty, plain⟩ := full line List.mem_cons_self
      have ended : seek [10, 10] [10, 10] (10 :: lines.flatMap (· ++ [10])) = none := by
        rw [seek]
        simp only [List.head?_cons, if_true, List.tail_cons, List.isEmpty_cons, Bool.false_eq_true, if_false, afterLine]
        rfl
      have afresh : ∀ part : Text, 10 ∉ part →
          seek [10, 10] [10, 10] (part ++ (10 :: lines.flatMap (· ++ [10]))) = none := by
        intro part plain
        rw [seek_passed plain, ended]
        rfl
      rw [List.flatMap_cons, List.append_assoc, List.singleton_append]
      refine ⟨afresh line plain, ?_⟩
      cases line with
      | nil => exact absurd rfl nonempty
      | cons c rest =>
          rw [List.mem_cons, not_or] at plain
          have other : [10].head? ≠ some c := fun same => plain.1 (Option.some.inj same)
          rw [List.cons_append, seek_other other (by decide), afresh rest plain.2]
          rfl

def bodyOf (content : Bytes) : Text :=
  let body := Base64.encodePadded .standard content
  (wrap body.length body).flatMap (· ++ [10])

/-- A label has no hyphen, and its letters are ASCII. -/
structure IsLabel (label : Text) : Prop where
  nonempty : label ≠ []
  ascii : ∀ c ∈ label, c < 128
  plain : 45 ∉ label

/-- The letters of the body of a block, its padding among them. -/
def IsBodyLetter (c : CodePoint) : Prop := c = 61 ∨ ∃ value < 64, c = Base64.Alphabet.char .standard value

theorem body_letter_facts {c : CodePoint} (letter : IsBodyLetter c) :
    c < 128 ∧ c ≠ 10 ∧ c ≠ 13 ∧ c ≠ 45 ∧ Text.isWhiteSpace c = false ∧ Block.decode.isFiller c = false := by
  rcases letter with rfl | ⟨value, bound, rfl⟩
  · decide
  · revert value
    decide

theorem body_letter_of_padded {content : Bytes} {c : CodePoint} (member : c ∈ Base64.encodePadded .standard content) :
    IsBodyLetter c := by
  rw [Base64.encodePadded, List.mem_append] at member
  rcases member with letter | padding
  · exact .inr (Base64.mem_encode letter)
  · exact .inl (List.eq_of_mem_replicate padding)

theorem mem_body {content : Bytes} {c : CodePoint} (member : c ∈ bodyOf content) : c = 10 ∨ IsBodyLetter c := by
  obtain ⟨line, present, inside⟩ := List.mem_flatMap.mp member
  rcases List.mem_append.mp inside with letter | newline
  · exact .inr (body_letter_of_padded (mem_of_line present c letter))
  · exact .inl (List.mem_singleton.mp newline)

theorem body_facts (content : Bytes) :
    (∀ c ∈ bodyOf content, c < 128) ∧ 45 ∉ bodyOf content ∧ 13 ∉ bodyOf content := by
  refine ⟨?_, ?_, ?_⟩
  · intro c member
    rcases mem_body member with rfl | letter
    · decide
    · exact (body_letter_facts letter).1
  · intro member
    rcases mem_body member with newline | letter
    · cases newline
    · exact (body_letter_facts letter).2.2.2.1 rfl
  · intro member
    rcases mem_body member with newline | letter
    · cases newline
    · exact (body_letter_facts letter).2.2.1 rfl

theorem headers_body (content : Bytes) : headers (bodyOf content) = ([], bodyOf content) := by
  have full : ∀ line ∈ wrap (Base64.encodePadded .standard content).length (Base64.encodePadded .standard content),
      line ≠ [] ∧ 10 ∉ line := by
    intro line member
    refine ⟨line_ne_nil member, fun newline => ?_⟩
    exact (body_letter_facts (body_letter_of_padded (mem_of_line member 10 newline))).2.1 rfl
  have unix : cutAt [10, 10] (bodyOf content) = none := by
    rw [cutAt, bodyOf, (no_empty_line full).1]
    rfl
  have dos : cutAt [13, 10, 13, 10] (bodyOf content) = none := cut_at_absent rfl (body_facts content).2.2
  rw [headers, unix, dos]

theorem unwrap_body (content : Bytes) : unwrap (bodyOf content) = Base64.encodePadded .standard content := by
  have line : ∀ line ∈ wrap (Base64.encodePadded .standard content).length (Base64.encodePadded .standard content),
      (line ++ [10]).filter (fun c => !Text.isWhiteSpace c) = line := by
    intro line member
    have kept : ∀ c ∈ line, (!Text.isWhiteSpace c) = true := by
      intro c inside
      rw [(body_letter_facts (body_letter_of_padded (mem_of_line member c inside))).2.2.2.2.1]
      rfl
    rw [List.filter_append, List.filter_eq_self.mpr kept]
    exact List.append_nil line
  rw [unwrap, bodyOf, List.filter_flatMap, List.flatMap_congr line, List.flatMap_id', wrap_joined (Nat.le_refl _)]

theorem drop_filler_body (content : Bytes) (after : Text) :
    (10 :: (bodyOf content ++ (endMark ++ after))).dropWhile Block.decode.isFiller = bodyOf content ++ (endMark ++ after) := by
  have start : ∀ c ∈ (bodyOf content ++ (endMark ++ after)).head?, Block.decode.isFiller c = false := by
    intro c first
    rw [bodyOf] at first
    generalize lined : wrap (Base64.encodePadded .standard content).length (Base64.encodePadded .standard content) = lines at first
    cases lines with
    | nil =>
        cases first
        rfl
    | cons line lines =>
        have member : line ∈ wrap (Base64.encodePadded .standard content).length (Base64.encodePadded .standard content) := by
          rw [lined]
          exact List.mem_cons_self
        cases line with
        | nil => exact absurd rfl (line_ne_nil member)
        | cons d line =>
            cases first
            exact (body_letter_facts (body_letter_of_padded (mem_of_line member c List.mem_cons_self))).2.2.2.2.2
  have newline : Block.decode.isFiller 10 = true := rfl
  rw [List.dropWhile_cons_of_pos newline]
  cases remains : bodyOf content ++ (endMark ++ after) with
  | nil => rfl
  | cons c rest =>
      rw [remains] at start
      exact List.dropWhile_cons_of_neg (by rw [start c rfl]; exact Bool.false_ne_true)

theorem utf8_of_ascii {t : Text} (ascii : ∀ c ∈ t, c < 128) : Block.decode.utf8? t = some t :=
  Utf8.decode_of_ascii false ascii

theorem latin1_of_ascii {t : Text} (ascii : ∀ c ∈ t, c < 128) (rest : Bytes) :
    Bytes.latin1 (t.map UInt8.ofNat ++ rest) = t ++ Bytes.latin1 rest := by
  have numbers : ∀ c ∈ t, (UInt8.toNat ∘ UInt8.ofNat) c = id c := fun c member => Utf8.to_nat_of_ascii (ascii c member)
  rw [Bytes.latin1, List.map_append, List.map_map, List.map_congr_left numbers, List.map_id, Bytes.latin1]

theorem Block.encode_eq (block : Block) :
    block.encode = beginMark ++ (block.label ++ (dashes ++ (10 :: (bodyOf block.content ++
      (endMark ++ (block.label ++ (dashes ++ [10]))))))) := by
  simp [Block.encode, bodyOf]

theorem ascii_encode {block : Block} (labelled : IsLabel block.label) : ∀ c ∈ block.encode, c < 128 := by
  have begins : ∀ c ∈ beginMark, c < 128 := by decide
  have ends : ∀ c ∈ endMark, c < 128 := by decide
  have hyphens : ∀ c ∈ dashes, c < 128 := by decide
  have newline : (10 : CodePoint) < 128 := by decide
  rw [Block.encode_eq]
  simp only [List.forall_mem_append, List.forall_mem_cons]
  exact ⟨begins, labelled.ascii, hyphens, newline, (body_facts _).1, ends, labelled.ascii, hyphens, newline,
    fun c member => absurd member List.not_mem_nil⟩

/-- A written block is the first one of a file that begins with it. -/
theorem Block.decode_encode {block : Block} (labelled : IsLabel block.label) (rest : Bytes) :
    Block.decode (block.encode.map UInt8.ofNat ++ rest) = some block := by
  have dashed : dashes.head? = some 45 := rfl
  have begun : beginMark.head? = some 45 := rfl
  have ended : endMark.head? = some 45 := rfl
  obtain ⟨ascii, hyphenless, _⟩ := body_facts block.content
  let closing := block.label ++ (dashes ++ (10 :: Bytes.latin1 rest))
  have whole : Bytes.latin1 (block.encode.map UInt8.ofNat ++ rest) =
      beginMark ++ (block.label ++ (dashes ++ (10 :: (bodyOf block.content ++ (endMark ++ closing))))) := by
    rw [latin1_of_ascii (ascii_encode labelled), Block.encode_eq]
    simp [closing]
  have opened : cutAt beginMark (beginMark ++ (block.label ++ (dashes ++ (10 :: (bodyOf block.content ++
      (endMark ++ closing)))))) = some ([], _) :=
    cut_at_append begun List.not_mem_nil _
  have named : cutAt dashes (block.label ++ (dashes ++ (10 :: (bodyOf block.content ++ (endMark ++ closing))))) =
      some (block.label, _) :=
    cut_at_append dashed labelled.plain _
  have filled : cutAt endMark (bodyOf block.content ++ (endMark ++ closing)) = some (bodyOf block.content, closing) :=
    cut_at_append ended hyphenless _
  have closed : cutAt dashes closing = some (block.label, _) := cut_at_append dashed labelled.plain _
  have unlabelled : block.label.isEmpty = false := List.isEmpty_eq_false_iff.mpr labelled.nonempty
  have headless : areHeaders [] = true := rfl
  have blank : Block.decode.utf8? [] = some [] := rfl
  rw [Block.decode, whole]
  simp only [Option.bind_eq_bind, Option.bind_some, opened, named, drop_filler_body, filled, closed, headers_body,
    utf8_of_ascii labelled.ascii, utf8_of_ascii ascii, blank, headless, unlabelled, unwrap_body,
    Base64.decode_padded_encode]
  simp

theorem of_utf8 {t label : Text} (bytes : ∀ c ∈ t, c < 256) (read : Block.decode.utf8? t = some label)
    (ascii : ∀ c ∈ label, c < 128) : t = label := by
  have same : t.map UInt8.ofNat = label.map UInt8.ofNat := Utf8.of_decode_ascii read ascii
  have numbers := congrArg (List.map UInt8.toNat) same
  rw [List.map_map, List.map_map] at numbers
  rw [List.map_congr_left (g := id), List.map_id, List.map_congr_left (g := id), List.map_id] at numbers
  · exact numbers
  · exact fun c member => Utf8.to_nat_of_ascii (ascii c member)
  · intro c member
    have small := bytes c member
    show (UInt8.ofNat c).toNat = c
    rw [UInt8.toNat_ofNat', Nat.mod_eq_of_lt small]

theorem latin1_lt (file : Bytes) : ∀ c ∈ file.latin1, c < 256 := by
  intro c member
  obtain ⟨b, _, rfl⟩ := List.mem_map.mp member
  exact b.toNat_lt

/-- A block that is read stands in its file between two lines that bear its label. -/
theorem whole_of_decode {file : Bytes} {block : Block} (read : Block.decode file = some block)
    (ascii : ∀ c ∈ block.label, c < 128) :
    ∃ before body after, file.latin1 =
      before ++ (beginMark ++ block.label ++ dashes) ++ body ++ (endMark ++ block.label ++ dashes) ++ after := by
  obtain ⟨⟨before, r1⟩, opened, read⟩ := Option.bind_eq_some_iff.mp read
  obtain ⟨⟨label, r2⟩, named, read⟩ := Option.bind_eq_some_iff.mp read
  obtain ⟨⟨body, r3⟩, filled, read⟩ := Option.bind_eq_some_iff.mp read
  obtain ⟨⟨closing, after⟩, closed, read⟩ := Option.bind_eq_some_iff.mp read
  dsimp only at opened named filled closed read
  obtain ⟨name, nameRead, read⟩ := Option.bind_eq_some_iff.mp read
  obtain ⟨closingName, closingRead, read⟩ := Option.bind_eq_some_iff.mp read
  obtain ⟨heading, _, read⟩ := Option.bind_eq_some_iff.mp read
  obtain ⟨lines, _, read⟩ := Option.bind_eq_some_iff.mp read
  split at read
  · cases read
  · next sound =>
      obtain ⟨content, _, read⟩ := Option.bind_eq_some_iff.mp read
      cases read
      have same : name = closingName := by
        by_contra differ
        exact sound (.inr (.inl differ))
      have start := whole_of_cut_at (by decide) opened
      have front := whole_of_cut_at (by decide) named
      have middle := whole_of_cut_at (by decide) filled
      have back := whole_of_cut_at (by decide) closed
      obtain ⟨filler, passed⟩ : ∃ filler, r2 = filler ++ (body ++ endMark ++ r3) := by
        refine ⟨r2.takeWhile Block.decode.isFiller, ?_⟩
        rw [← middle, List.takeWhile_append_dropWhile]
      have whole : file.latin1 = before ++ (beginMark ++ label ++ dashes) ++ (filler ++ body) ++
          (endMark ++ closing ++ dashes) ++ after := by
        rw [start, front, passed, back]
        simp only [List.append_assoc]
      -- The bytes of both labels read as the same ASCII text, so they are the same.
      have bytes := latin1_lt file
      rw [whole] at bytes
      simp only [List.forall_mem_append] at bytes
      obtain ⟨⟨⟨⟨_, ⟨_, opening⟩, _⟩, _⟩, ⟨_, ending⟩, _⟩, _⟩ := bytes
      have first : label = name := of_utf8 opening nameRead ascii
      have last : closing = name := of_utf8 ending (same ▸ closingRead) ascii
      rw [first, last] at whole
      exact ⟨before, filler ++ body, after, whole⟩

end BearerRole.Pem
