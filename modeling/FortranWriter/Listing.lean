import FortranWriter.Layout
import FortranWriter.Wording
/-! The complete text of a source file: a banner of comments if one is asked for, the physical lines
with their endings, and the bytes of it all. -/
namespace FortranWriter

def version : Text :=
  "0.1.0".toList

def bannerText (source : Text) (form : SourceForm) : Text :=
  "generated by macrofor ".toList ++ version ++ " from ".toList ++ source ++
    "\nsource form: ".toList ++ form.name

/-- Each line of the banner is a comment, so nothing in it can be taken for code. -/
def banner (source : Text) (form : SourceForm) : Except Refusal Fragment := do
  let comments ← (bannerText source form).lines.mapM Wording.comment
  return Fragment.ofText (Text.joinWith ['\n'] comments)

/-- Every line with the line ending behind it. -/
def terminate (ending : Text) (lines : List Text) : Text :=
  lines.flatMap (· ++ ending)

def frontMatter (emission : Emission) : Except Refusal (List Fragment) :=
  match emission.banner with
  | none => .ok []
  | some source => do return [← banner source emission.form]

def render (fragments : List Fragment) (emission : Emission) : Except Refusal Text := do
  let front ← frontMatter emission
  return terminate emission.lineEnding.text (layout (front ++ fragments) emission)

/-- The bytes of a text that has one byte for each character. -/
def encodeBytewise (encoding : Encoding) (repertoire : Nat) : Text → Except Refusal (List UInt8)
  | [] => .ok []
  | c :: rest =>
    if c.toNat < repertoire then do
      return UInt8.ofNat c.toNat :: (← encodeBytewise encoding repertoire rest)
    else .error (.unrepresentable c encoding)

def encode (text : Text) (encoding : Encoding) : Except Refusal ByteArray :=
  match encoding.repertoire? with
  | none => .ok (Text.bytes text)
  | some repertoire => do
    return ByteArray.mk (← encodeBytewise encoding repertoire text).toArray

def sourceBytes (fragments : List Fragment) (emission : Emission) : Except Refusal ByteArray := do
  encode (← render fragments emission) emission.encoding

end FortranWriter
