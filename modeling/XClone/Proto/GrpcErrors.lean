import XClone.Identity.GrpcController
import XClone.Js.ReferenceNode

/-!
# XClone.Proto.GrpcErrors — a field violation as gRPC metadata

A gRPC status has a code and a message but no structured payload, so the rejected field
rides in one metadata key, as JSON text. `Metadata` is the class of grpc-js, not this
repository's: what the two sides rely on is `MetadataClass.Lawful`.
-/

namespace XClone.Proto

open Js Identity

/-- What `metadata.get(key)` lists: text, or the bytes of a binary key. -/
inductive MetadataValue where
  | text (value : JsString)
  | buffer (value : Bytes)

/-- The `Metadata` class of grpc-js. -/
structure MetadataClass where
  Metadata : Type
  /-- `new Metadata()`. -/
  empty : Metadata
  /-- `metadata.set(key, value)`, with what it leaves; `none` is a thrown error. -/
  set : Metadata → JsString → JsString → Option Metadata
  /-- `metadata.get(key)`. -/
  get : Metadata → JsString → List MetadataValue

/-- `FIELD_VIOLATION_METADATA_KEY`. -/
def fieldViolationMetadataKey : JsString := js "x-field-violation"

/-- What is relied on under that key: a value is refused unless it is printable ASCII,
and read back as it was set. -/
structure MetadataClass.Lawful (grpc : MetadataClass) : Prop where
  set_isSome : ∀ metadata value,
    (grpc.set metadata fieldViolationMetadataKey value).isSome = true ↔ IsPrintable value
  get_set : ∀ {metadata value metadata'},
    grpc.set metadata fieldViolationMetadataKey value = some metadata' →
      grpc.get metadata' fieldViolationMetadataKey = [.text value]
  get_empty : grpc.get grpc.empty fieldViolationMetadataKey = []

section Violations

variable (grpc : MetadataClass) (node : Node)

/-- The object that is serialised. -/
def violationRecord (violation : FieldViolation) : Record :=
  [(js "field", .str violation.field), (js "reason", .str violation.reason)]

/-- `withFieldViolation(metadata, violation)`; `none` is a thrown error. -/
def withFieldViolation (metadata : grpc.Metadata) (violation : FieldViolation) :
    Option grpc.Metadata :=
  grpc.set metadata fieldViolationMetadataKey (node.jsonStringify (.obj (violationRecord violation)))

/-- `readFieldViolation(metadata)`. -/
def readFieldViolation (metadata : grpc.Metadata) : Option FieldViolation :=
  match (grpc.get metadata fieldViolationMetadataKey).head? with
  | some (.text raw) =>
    match node.jsonParse raw with
    | some (.obj parsed) =>
      match Record.get parsed (js "field"), Record.get parsed (js "reason") with
      | some (.str field), some (.str reason) => some { field, reason }
      | _, _ => none
    -- not an object, or the `catch` of a `SyntaxError`
    | _ => none
  | _ => none

/-! ## The round trip -/

/-- A violation that can be sent. -/
structure Sendable (violation : FieldViolation) : Prop where
  field : IsPrintable violation.field
  reason : IsPrintable violation.reason

theorem violationRecord_plain (violation : FieldViolation) :
    PlainRecord (violationRecord violation) := by
  constructor
  · show [js "field", js "reason"].Nodup
    decide
  · intro member hmember
    rcases List.mem_cons.mp hmember with rfl | hmember
    · show IsName (js "field")
      decide
    · rw [List.mem_singleton.mp hmember]
      show IsName (js "reason")
      decide
  · intro member hmember
    rcases List.mem_cons.mp hmember with rfl | hmember
    · exact .str _
    · rw [List.mem_singleton.mp hmember]
      exact .str _

variable {grpc node}

/-- Printable violations are not refused. -/
theorem withFieldViolation_sendable (hgrpc : grpc.Lawful) (hprintable : node.StringifiesPrintable)
    (metadata : grpc.Metadata) {violation : FieldViolation} (h : Sendable violation) :
    ∃ metadata', withFieldViolation grpc node metadata violation = some metadata' := by
  have hvalues : ∀ member ∈ violationRecord violation, PrintableValue member.2 := by
    intro member hmember
    rcases List.mem_cons.mp hmember with rfl | hmember
    · exact ⟨_, rfl, h.field⟩
    · rw [List.mem_singleton.mp hmember]
      exact ⟨_, rfl, h.reason⟩
  have htext := hprintable (violationRecord_plain violation) hvalues
  exact Option.isSome_iff_exists.mp ((hgrpc.set_isSome metadata _).mpr htext)

/-- What was sent is what is read, whatever its characters. -/
theorem read_withFieldViolation (hgrpc : grpc.Lawful) (hnode : node.Lawful) {metadata metadata' : grpc.Metadata} {violation : FieldViolation}
    (h : withFieldViolation grpc node metadata violation = some metadata') :
    readFieldViolation grpc node metadata' = some violation := by
  unfold readFieldViolation
  rw [hgrpc.get_set h]
  dsimp only [List.head?_cons]
  rw [hnode.parse_stringify (violationRecord_plain violation)]
  rfl

/-- Nothing was sent: nothing is read. -/
theorem read_empty (hgrpc : grpc.Lawful) : readFieldViolation grpc node grpc.empty = none := by
  unfold readFieldViolation
  rw [hgrpc.get_empty]
  rfl

end Violations

/-! ## A reference -/

/-- Metadata as a list of keys and values, the last one set first. -/
def referenceMetadata : MetadataClass where
  Metadata := List (JsString × JsString)
  empty := []
  set metadata key value :=
    if IsPrintable value then some ((key, value) :: metadata.filter (·.1 ≠ key)) else none
  get metadata key := (metadata.filter (·.1 = key)).map fun entry => .text entry.2

/-- It keeps the laws. -/
theorem referenceMetadata_lawful : referenceMetadata.Lawful where
  set_isSome metadata value := by
    show (if IsPrintable value then some _ else none : Option _).isSome = true ↔ _
    split
    · rename_i hprintable
      exact ⟨fun _ => hprintable, fun _ => rfl⟩
    · rename_i hrefused
      exact ⟨fun hno => (nomatch hno), fun hprintable => absurd hprintable hrefused⟩
  get_set {metadata value metadata'} h := by
    change (if IsPrintable value then some _ else none : Option _) = some metadata' at h
    split at h
    · cases h
      have hrest : (metadata.filter (·.1 ≠ fieldViolationMetadataKey)).filter
          (·.1 = fieldViolationMetadataKey) = [] := by
        rw [List.filter_eq_nil_iff]
        intro entry hentry hkey
        exact of_decide_eq_true (List.mem_filter.mp hentry).2 (of_decide_eq_true hkey)
      show List.map _ (List.filter _ (_ :: _)) = _
      rw [List.filter_cons_of_pos (by simp), hrest]
      rfl
    · cases h
  get_empty := rfl

end XClone.Proto
