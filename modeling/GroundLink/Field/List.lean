import GroundLink.Field.Decode
import GroundLink.Field.Encode

/-!
# Bodies

A message body is a list of fields with distinct names, of which only the last may vary in length;
`check` finds out in one pass, and goes by names (`check_eq_ok_iff`). The sizes of its fields are
added once and for all, which stops the program if the sum does not fit a word. The body of a list
of values is their bytes one after another, and a body is split by the sizes of the fields.
-/

namespace GroundLink

/-- The sizes of fields added up, from an amount on, unless a sum does not fit a word. -/
def Field.addSizes (start : UInt64) (fields : List Field) : Option UInt64 :=
  fields.foldlM (fun total field => do
    let size ← field.byteSize
    Word.ofNat? (total.toNat + size.toNat)) start

/-- The fields of a message body. -/
structure FieldList where
  fields : List Field
  /-- The bytes of all fields of fixed size. -/
  fixedSize : UInt64
  /-- No two fields share a name. -/
  distinct : (fields.map Field.name).Nodup
  /-- Only the last field may vary in length. -/
  variable_last : ∀ field ∈ fields.dropLast, field.isVariable = false
  /-- The sizes add up to a word. -/
  sized : Field.addSizes 0 fields = some fixedSize
deriving DecidableEq

namespace FieldList

/-- Go through fields in order. None may repeat the name of one before it, and none may be of
variable length behind another one of variable length. The one of variable length is given back. -/
def survey (names : List String) (open? : Option Field) :
    List Field → Except FieldError (Option Field)
  | [] => .ok open?
  | field :: rest =>
    if field.name ∈ names then .error (.duplicateName field.name)
    else if field.isVariable then
      match open? with
      | some first => .error (.multipleVariable first.name field.name)
      | none => survey (field.name :: names) (some field) rest
    else survey (field.name :: names) open? rest

/-- Judge a list of fields. That a field of variable length is not the last one is reported only if
no two fields clash, and it is told by its name. -/
def check (fields : List Field) : Except FieldError Unit :=
  match survey [] none fields with
  | .error clash => .error clash
  | .ok none => .ok ()
  | .ok (some field) =>
    if fields.getLast?.map Field.name = some field.name then .ok ()
    else .error (.variableNotLast field.name)

/-- What is known of fields that do not clash: their names are new, and at most one of them is of
variable length. -/
theorem survey_eq_ok_iff {names : List String} {open? found : Option Field} {fields : List Field} :
    survey names open? fields = .ok found ↔
      (∀ field ∈ fields, field.name ∉ names) ∧ (fields.map Field.name).Nodup ∧
        open?.toList ++ fields.filter Field.isVariable = found.toList := by
  induction fields generalizing names open? with
  | nil => cases open? <;> cases found <;> simp [survey]
  | cons field rest ih =>
      have hnames : (∀ other ∈ rest, other.name ∉ field.name :: names) ↔
          (∀ other ∈ rest, other.name ∉ names) ∧ field.name ∉ rest.map Field.name := by
        refine ⟨fun h => ⟨fun other hother => ?_, fun hmem => ?_⟩, fun h other hother => ?_⟩
        · exact fun hname => h other hother (List.mem_cons_of_mem _ hname)
        · obtain ⟨other, hother, hsame⟩ := List.mem_map.mp hmem
          exact h other hother (hsame ▸ List.mem_cons_self)
        · intro hname
          rcases List.mem_cons.mp hname with hsame | hname
          · exact h.2 (hsame ▸ List.mem_map_of_mem hother)
          · exact h.1 other hother hname
      have hrest (next : Option Field) : survey (field.name :: names) next rest = .ok found ↔
          (∀ other ∈ rest, other.name ∉ names) ∧ ((field :: rest).map Field.name).Nodup ∧
            next.toList ++ rest.filter Field.isVariable = found.toList := by
        rw [ih, hnames, List.map_cons, List.nodup_cons, and_assoc, and_assoc]
      unfold survey
      split
      case isTrue hname => simp [hname]
      case isFalse hname =>
        split
        case isTrue hvariable =>
          split
          case h_1 first => cases found <;> simp [hvariable]
          case h_2 => simp [hrest, hname, hvariable]
        case isFalse hvariable => simp [hrest, hname, hvariable]

/-- If names tell fields apart, the only field of variable length is the last one as soon as it has
the name of the last one. -/
theorem fixed_of_last_name {fields : List Field} {field : Field}
    (hnames : (fields.map Field.name).Nodup) (hvariable : fields.filter Field.isVariable = [field])
    (hlast : fields.getLast?.map Field.name = some field.name) :
    ∀ other ∈ fields.dropLast, other.isVariable = false := by
  obtain ⟨last, hget, hname⟩ := Option.map_eq_some_iff.mp hlast
  obtain ⟨front, rfl⟩ := List.getLast?_eq_some_iff.mp hget
  rw [List.dropLast_concat]
  intro other hother
  cases hkind : other.isVariable with
  | false => rfl
  | true =>
      have hmem : other ∈ (front ++ [last]).filter Field.isVariable :=
        List.mem_filter.mpr ⟨List.mem_append_left _ hother, hkind⟩
      rw [hvariable] at hmem
      obtain rfl := List.mem_singleton.mp hmem
      rw [List.map_append, List.nodup_append] at hnames
      exact absurd hname.symm
        (hnames.2.2 _ (List.mem_map_of_mem hother) _ (List.mem_map_of_mem List.mem_cons_self))

/-- Fields are accepted if their names differ and none before the last is of variable length. -/
theorem check_eq_ok_iff {fields : List Field} :
    check fields = .ok () ↔ (fields.map Field.name).Nodup ∧
      ∀ field ∈ fields.dropLast, field.isVariable = false := by
  have hsurvey (found : Option Field) : survey [] none fields = .ok found ↔
      (fields.map Field.name).Nodup ∧ fields.filter Field.isVariable = found.toList := by
    simp [survey_eq_ok_iff]
  constructor
  · intro h
    unfold check at h
    split at h
    case h_1 => cases h
    case h_2 hfound =>
      obtain ⟨hnames, hnone⟩ := (hsurvey none).mp hfound
      refine ⟨hnames, fun field hfield => Bool.eq_false_iff.mpr ?_⟩
      exact List.filter_eq_nil_iff.mp hnone field ((List.dropLast_sublist fields).subset hfield)
    case h_3 field hfound =>
      obtain ⟨hnames, hone⟩ := (hsurvey (some field)).mp hfound
      split at h
      case isTrue hlast => exact ⟨hnames, fixed_of_last_name hnames hone hlast⟩
      case isFalse => cases h
  · rintro ⟨hnames, hfixed⟩
    unfold check
    cases hget : fields.getLast? with
    | none =>
        obtain rfl := List.getLast?_eq_none_iff.mp hget
        rfl
    | some last =>
        obtain ⟨front, rfl⟩ := List.getLast?_eq_some_iff.mp hget
        rw [List.dropLast_concat] at hfixed
        have hfront : front.filter Field.isVariable = [] :=
          List.filter_eq_nil_iff.mpr fun field hfield => Bool.eq_false_iff.mp (hfixed field hfield)
        cases hkind : last.isVariable with
        | false => rw [(hsurvey none).mpr ⟨hnames, by simp [hfront, hkind]⟩]
        | true =>
            rw [(hsurvey (some last)).mpr ⟨hnames, by simp [hfront, hkind]⟩]
            exact if_pos rfl

/-- The body of some fields. -/
def ofFields (fields : List Field) : Except FieldError FieldList :=
  match h : check fields, hsize : Field.addSizes 0 fields with
  | .error fault, _ => .error fault
  | .ok (), none => .error .overflow
  | .ok (), some size =>
    .ok ⟨fields, size, (check_eq_ok_iff.mp h).1, (check_eq_ok_iff.mp h).2, hsize⟩

/-- The body without fields. -/
def empty : FieldList :=
  ⟨[], 0, List.nodup_nil, List.forall_mem_nil _, rfl⟩

/-- The body of fields given by name and type string. -/
def ofTypes (entries : List (String × String)) (order : ByteOrder) :
    Except FieldError FieldList := do
  let fields ← entries.mapM fun (name, type) => Field.ofType name type order
  ofFields fields

/-- The field of a name. -/
def field? (list : FieldList) (name : String) : Option Field :=
  list.fields.find? fun field => field.name == name

/-- Whether the last field varies in length. -/
def hasVariable (list : FieldList) : Bool :=
  list.fields.getLast?.any Field.isVariable

/-- The fields as they are declared. -/
def text (list : FieldList) : String :=
  "(" ++ ", ".intercalate (list.fields.map Field.text) ++ ")"

/-- The bytes of values for fields, one value for each. -/
def encodeFields : List Field → List Value → Except EncodeError Bytes
  | field :: fields, value :: values => do
    let first ← field.encodeInto value
    let rest ← encodeFields fields values
    pure (first ++ rest)
  | _, _ => .ok []

/-- The body of a list of values. The buffer for it is reserved before any value is looked at. -/
def encode (list : FieldList) (values : List Value) : Except EncodeError Bytes :=
  if values.length = list.fields.length then do
    reserve list.fixedSize
    encodeFields list.fields values
  else .error (.valueCount list.fields.length values.length)

/-- Split bytes over fields: each takes its size, one of variable length takes all that is left. -/
def decodeFields : List Field → Bytes → Except DecodeError (List (String × Value))
  | [], _ => .ok []
  | field :: fields, data => do
    let size ← field.span data.length
    let value ← field.decode (data.take size)
    let rest ← decodeFields fields (data.drop size)
    pure ((field.name, value) :: rest)

/-- The record of a body. -/
def decode (list : FieldList) (data : Bytes) : Except DecodeError Record :=
  if data.length < list.fixedSize.toNat then .error (.tooShort list.fixedSize data.length)
  else if !list.hasVariable && data.length != list.fixedSize.toNat then
    .error (.lengthMismatch list.fixedSize data.length)
  else (decodeFields list.fields data).map Record.mk

end FieldList

end GroundLink
