import BearerRole.Codec.Base64
import BearerRole.Codec.Utf8
import BearerRole.Key.PublicKey
import BearerRole.Text.Blank

/-!
Key files: binary data as lines of base64 between a line that begins a block and a line that ends it, each
with the block's label. The first block of a file counts and all text around it is passed over.
-/

namespace BearerRole.Pem

set_option autoImplicit false

structure Block where
  label : Text
  content : Bytes
  deriving Repr, DecidableEq

def beginMark : Text := text "-----BEGIN "
def endMark : Text := text "-----END "
def dashes : Text := text "-----"

/-- Lines of at most 64 characters; the count of characters is fuel enough. -/
def wrap : Nat → Text → List Text
  | 0, _ => []
  | fuel + 1, t => if t.isEmpty then [] else t.take 64 :: wrap fuel (t.drop 64)

def Block.encode (block : Block) : Text :=
  let body := Base64.encodePadded .standard block.content
  beginMark ++ block.label ++ dashes ++ [10] ++
    (wrap body.length body).flatMap (· ++ [10]) ++
    endMark ++ block.label ++ dashes ++ [10]

/-- The text up to the end of a mark, and what follows. The search never goes back: a code point that does not go
on with the mark starts it afresh and is passed over, even if it begins the mark itself. -/
def seek (mark : Text) : Text → Text → Option (Text × Text)
  | _, [] => none
  | awaited, c :: rest =>
      let awaited := if awaited.head? = some c then awaited.tail else mark
      if awaited.isEmpty then some ([c], rest)
      else (seek mark awaited rest).map fun parts => (c :: parts.1, parts.2)

def cutAt (mark t : Text) : Option (Text × Text) :=
  (seek mark mark t).map fun parts => (parts.1.take (parts.1.length - mark.length), parts.2)

/-- Splits off headers, which an empty line ends, and gives them with the lines after it. -/
def headers (body : Text) : Text × Text :=
  match cutAt [10, 10] body with
  | some parts => parts
  | none =>
      match cutAt [13, 10, 13, 10] body with
      | some parts => parts
      | none => ([], body)

def lines (t : Text) : List Text :=
  match (Text.split 10 t).reverse with
  | [] :: rest => rest.reverse
  | all => all.reverse

def areHeaders (t : Text) : Bool := (lines t).all (·.contains 58)

def unwrap (body : Text) : Text := body.filter fun c => !Text.isWhiteSpace c

/-- The first block of a file. The file is searched as bytes, each as the code point of its number, and the
parts of the block are then read as UTF-8. -/
def Block.decode (file : Bytes) : Option Block := do
  let (_, rest) ← cutAt beginMark file.latin1
  let (label, rest) ← cutAt dashes rest
  let (body, rest) ← cutAt endMark (rest.dropWhile isFiller)
  let (closing, _) ← cutAt dashes rest
  let (heading, lines) := headers body
  let label ← utf8? label
  let closing ← utf8? closing
  let heading ← utf8? heading
  let lines ← utf8? lines
  if label.isEmpty ∨ label ≠ closing ∨ !areHeaders heading then none
  else
    let content ← Base64.decodePadded (unwrap lines)
    some ⟨label, content⟩
where
  utf8? (t : Text) : Option Text := Utf8.decode? (t.map UInt8.ofNat)
  isFiller (c : CodePoint) : Bool := c == 32 || c == 9 || c == 13 || c == 10

def publicKeyLabel : Text := text "PUBLIC KEY"
def rsaPublicKeyLabel : Text := text "RSA PUBLIC KEY"

/-- The key of a block. The label of the bare form also admits the general form of an RSA key. -/
def Block.publicKey? (block : Block) : Option PublicKey :=
  if block.label = publicKeyLabel then PublicKey.decode block.content
  else if block.label = rsaPublicKeyLabel then
    match RsaKey.decodeBare block.content with
    | some key => some (.rsa key)
    | none =>
        match PublicKey.decode block.content with
        | some (.rsa key) => some (.rsa key)
        | _ => none
  else none

def publicKey? (file : Bytes) : Option PublicKey := do
  let block ← Block.decode file
  block.publicKey?

/-- The kinds of error that decoding a key may end with. A file that was read is never of the wrong type. -/
inductive DecodingError
  | badValue
  | wrongType
  | unsupportedAlgorithm
  deriving Repr, DecidableEq

/-- The error of a file without a key: that its algorithm is not supported, if it gets as far as naming one. -/
def errorOf (file : Bytes) : DecodingError :=
  match (Block.decode file).bind fun block => PublicKey.algorithm? block.content with
  | some algorithm => if PublicKey.isSupported algorithm then .badValue else .unsupportedAlgorithm
  | none => .badValue

def publicKey (file : Bytes) : Except DecodingError PublicKey :=
  match publicKey? file with
  | some key => .ok key
  | none => .error (errorOf file)

def ofRsaKey (key : RsaKey) : Text := Block.encode ⟨publicKeyLabel, key.encode⟩

end BearerRole.Pem
