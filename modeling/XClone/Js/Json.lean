import XClone.Js.Number
import XClone.Js.Text

/-!
# XClone.Js.Json — JSON values and what Node does with them

`JSON.stringify`, `JSON.parse`, the decoding half of `Buffer` and HMAC-SHA256
are Node's, not this repository's: they are the fields of a `Node`. What the
services rely on is `Node.Lawful`: the plain records they serialise — strings and
safe integers under distinct names — come back from their text, and their text
comes back from its base64url.
-/

namespace XClone.Js

/-- A JSON value. -/
inductive Json where
  | null
  | bool (value : Bool)
  | num (value : JsNumber)
  | str (value : JsString)
  | arr (items : List Json)
  | obj (members : List (JsString × Json))

/-- The members of a JSON object: what the sources type `Record<string, unknown>`. -/
abbrev Record := List (JsString × Json)

/-- `record[key]`; `none` is `undefined`. -/
def Record.get (record : Record) (key : JsString) : Option Json :=
  (record.find? (·.1 = key)).map Prod.snd

/-- The parts of Node the services call. -/
structure Node where
  /-- `JSON.stringify(value)`. -/
  jsonStringify : Json → JsString
  /-- `JSON.parse(text)`; `none` is a thrown `SyntaxError`. -/
  jsonParse : JsString → Option Json
  /-- `Buffer.from(text, 'base64url').toString('utf8')`: lenient, never throws. -/
  decodeText : JsString → JsString
  /-- `createHmac('sha256', key).update(data).digest()`. -/
  hmacSha256 : Bytes → Bytes → Bytes

/-! ## Plain records -/

/-- A member name made of lower-case letters. -/
def IsName (key : JsString) : Prop := ∀ u ∈ key, 97 ≤ u.toNat ∧ u.toNat ≤ 122

/-- A string, or an integer a double holds exactly. -/
inductive PlainValue : Json → Prop where
  | str (value : JsString) : PlainValue (.str value)
  | int (n : ℤ) : |n| < 2 ^ 53 → PlainValue (.num (.finite n))

/-- A record of plain values under distinct names. -/
structure PlainRecord (record : Record) : Prop where
  distinct : (record.map Prod.fst).Nodup
  names : ∀ member ∈ record, IsName member.1
  values : ∀ member ∈ record, PlainValue member.2

/-- What the services rely on in Node, for the records they serialise. -/
structure Node.Lawful (node : Node) : Prop where
  parse_stringify : ∀ {record : Record}, PlainRecord record →
    node.jsonParse (node.jsonStringify (.obj record)) = some (.obj record)
  decode_encode : ∀ {record : Record}, PlainRecord record →
    node.decodeText (base64url (utf8 (node.jsonStringify (.obj record)))) =
      node.jsonStringify (.obj record)

/-- A string of printable characters. -/
def PrintableValue (value : Json) : Prop := ∃ s, value = .str s ∧ IsPrintable s

/-- The text of a plain record of printable strings is printable: what JSON escapes is
escaped with printable characters, and the rest of the text is punctuation. -/
def Node.StringifiesPrintable (node : Node) : Prop :=
  ∀ {record : Record}, PlainRecord record → (∀ member ∈ record, PrintableValue member.2) →
    IsPrintable (node.jsonStringify (.obj record))

instance (key : JsString) : Decidable (IsName key) :=
  List.decidableBAll (fun u : UInt16 => 97 ≤ u.toNat ∧ u.toNat ≤ 122) key

end XClone.Js
