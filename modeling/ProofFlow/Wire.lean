import ProofFlow.Kit.Flow
import ProofFlow.Kit.Validation
import ProofFlow.RoundTrip

/-!
# Strict wire models

The contracts are pydantic models with `extra="forbid"`, `strict=True` and stripped strings.  Each
annotated field type is a subtype that carries its constraint (`Identifier`, `Text 1 128`, `Items α
0 16`, …), and each has a decoder from JSON.  A model's fields are decoded together: a malformed
field makes the model invalid, while an exception other than a `ValueError` in one of the
validators surfaces as it is (`Kit.Validation`).
-/

namespace ProofFlow

open Kit

/-- `if c: raise ValueError(message)`. -/
def raiseIf (c : Prop) [Decidable c] (message : String) : Except PyErr Unit :=
  if c then .error (.valueError message) else .ok ()

@[simp] theorem raiseIf_eq_ok {c : Prop} [Decidable c] {message : String} {u : Unit} :
    raiseIf c message = .ok u ↔ ¬ c := by
  unfold raiseIf
  split <;> simp_all

theorem raiseIf_eq_error {c : Prop} [Decidable c] {message : String} {e : PyErr} :
    raiseIf c message = .error e ↔ c ∧ e = .valueError message := by
  unfold raiseIf
  split <;> simp_all [eq_comm]

/-! ## Field types -/

abbrev Identifier := { s : Str // isIdentifier s = true }

instance : LawfulBEq Identifier := inferInstance

/-- A string of bounded length. -/
abbrev Text (lo hi : ℕ) := { s : Str // lo ≤ s.length ∧ s.length ≤ hi }

/-- A string of bounded length that is no remote or indirect reference. -/
abbrev LocalText (lo hi : ℕ) :=
    { s : Str // (lo ≤ s.length ∧ s.length ≤ hi) ∧ isLocalLabel s = true }

/-- A non-negative integer in a range. -/
abbrev Ranged (lo hi : ℕ) := { n : ℕ // lo ≤ n ∧ n ≤ hi }

/-- A tuple of bounded length. -/
abbrev Items (α : Type) (lo hi : ℕ) := { l : List α // lo ≤ l.length ∧ l.length ≤ hi }

/-! ## Decoders -/

/-- Decoding of a JSON value into a field. -/
abbrev Decoder (α : Type) := Json Str → Validation PyErr α

namespace Decode

/-- A string, stripped. -/
def str : Decoder Str
  | .str s => .ok (strip s)
  | _ => .invalid

/-- A stripped string with a property. -/
def strWith (p : Str → Prop) [DecidablePred p] : Decoder { s : Str // p s } := fun j =>
  (str j).andThen fun s => if h : p s then .ok ⟨s, h⟩ else .invalid

def identifier : Decoder Identifier := strWith fun s => isIdentifier s = true

def sha256 : Decoder Sha256Text := strWith fun s => isSha256 s = true

def text (lo hi : ℕ) : Decoder (Text lo hi) := strWith fun s => lo ≤ s.length ∧ s.length ≤ hi

def localText (lo hi : ℕ) : Decoder (LocalText lo hi) :=
  strWith fun s => (lo ≤ s.length ∧ s.length ≤ hi) ∧ isLocalLabel s = true

/-- A field with one permitted string, which is not stripped. -/
def literal (value : String) : Decoder Unit
  | .str s => if s = lit value then .ok () else .invalid
  | _ => .invalid

/-- A string enumeration. -/
def enumeration {α : Type} (values : List (String × α)) : Decoder α
  | .str s =>
    match values.find? fun v => lit v.1 = s with
    | some v => .ok v.2
    | none => .invalid
  | _ => .invalid

def boolean : Decoder Bool
  | .bool b => .ok b
  | _ => .invalid

/-- A strict integer in a range. -/
def ranged (lo hi : ℕ) : Decoder (Ranged lo hi)
  | .int n =>
    if h : 0 ≤ n ∧ lo ≤ n.toNat ∧ n.toNat ≤ hi then .ok ⟨n.toNat, h.2⟩ else .invalid
  | _ => .invalid

def optional {α : Type} (d : Decoder α) : Decoder (Option α)
  | .null => .ok none
  | j => some <$> d j

def items {α : Type} (lo hi : ℕ) (d : Decoder α) : Decoder (Items α lo hi)
  | .arr l => (Validation.traverse d l).andThen fun l =>
      if h : lo ≤ l.length ∧ l.length ≤ hi then .ok ⟨l, h⟩ else .invalid
  | _ => .invalid

/-- A `datetime` field without a validator of its own. -/
def datetime (P : Platform) : Decoder DateTime
  | .str s =>
    match P.parseDatetime s with
    | some t => .ok t
    | none => .invalid
  | _ => .invalid

/-- A `datetime` field behind a `mode="before"` validator for the UTC wire profile. -/
def utcTimestamp (label : String) : Decoder UtcTime
  | .str s =>
    match parseUtcRfc3339Z s label with
    | .ok t => .ok t
    | .error _ => .invalid
  | _ => .invalid

/-- A base64 string of bounded length. -/
def base64 (lo hi : ℕ) (n : Option ℕ) (urlsafe : Bool) : Decoder (Base64Text n urlsafe) := fun j =>
  (str j).andThen fun s =>
    if lo ≤ s.length ∧ s.length ≤ hi then
      match h : decodeCanonicalBase64 s "" n urlsafe with
      | .ok b => .ok ⟨s, b, h⟩
      | .error _ => .invalid
    else .invalid

/-- An object with the given keys and no others. -/
def model {α : Type} (keys : List String) (fields : List (Str × Json Str) → Validation PyErr α) :
    Decoder α
  | .obj members =>
    (fields members).orInvalid (members.all fun m => keys.any fun k => lit k = m.1)
  | _ => .invalid

/-- A required member. -/
def field {α : Type} (members : List (Str × Json Str)) (key : String) (d : Decoder α) :
    Validation PyErr α :=
  match members.lookup (lit key) with
  | some j => d j
  | none => .invalid

/-- A member with a default. -/
def fieldOr {α : Type} (members : List (Str × Json Str)) (key : String) (default : α)
    (d : Decoder α) : Validation PyErr α :=
  match members.lookup (lit key) with
  | some j => d j
  | none => .ok default

/-- A model validator that runs after the model was accepted without it; a `ValueError` of it makes
the model invalid. -/
def after {α β : Type} {check : α → Except PyErr Unit} (mk : (a : α) → check a = .ok () → β)
    (model : Validation PyErr α) : Validation PyErr β :=
  model.andThen (Validation.refine PyErr.isValueError mk)

/-- An object with the given keys and no others, and a model validator for it. -/
def modelAfter {α β : Type} {check : α → Except PyErr Unit} (keys : List String)
    (mk : (a : α) → check a = .ok () → β)
    (fields : List (Str × Json Str) → Validation PyErr α) : Decoder β :=
  fun j => after mk (model keys fields j)

end Decode

/-! ## Decoders that raise nothing -/

/-- Every error of the check is a `ValueError`. -/
def OnlyValueErrors {α : Type} (x : Except PyErr α) : Prop :=
    ∀ e, x = .error e → e.isValueError = true

@[simp] theorem onlyValueErrors_ok {α : Type} (a : α) : OnlyValueErrors (.ok a) := by
  intro e h
  cases h

@[simp] theorem onlyValueErrors_raiseIf {c : Prop} [Decidable c] {message : String} :
    OnlyValueErrors (raiseIf c message) := by
  intro e h
  obtain ⟨-, rfl⟩ := raiseIf_eq_error.1 h
  rfl

@[simp] theorem OnlyValueErrors.bind {α β : Type} {x : Except PyErr α} {f : α → Except PyErr β}
    (hx : OnlyValueErrors x) (hf : ∀ a, OnlyValueErrors (f a)) : OnlyValueErrors (x >>= f) := by
  intro e h
  rcases bind_eq_error.1 h with h | ⟨a, -, h⟩
  · exact hx e h
  · exact hf a e h

@[simp] theorem OnlyValueErrors.forM {α : Type} {f : α → Except PyErr Unit}
    (hf : ∀ a, OnlyValueErrors (f a)) (l : List α) : OnlyValueErrors (l.forM f) := by
  induction l with
  | nil => exact onlyValueErrors_ok _
  | cons a l ih => exact OnlyValueErrors.bind (hf a) fun _ => ih

namespace Decode

variable {α β : Type} {j : Json Str}

@[simp] theorem quiet_str : (str j).Quiet := by
  cases j <;> simp [str]

@[simp] theorem quiet_strWith {p : Str → Prop} [DecidablePred p] : (strWith p j).Quiet := by
  simp only [strWith, Validation.quiet_andThen, quiet_str, true_and]
  intro s _
  exact Validation.quiet_dite (fun _ => Validation.quiet_ok _) (fun _ => Validation.quiet_invalid)

@[simp] theorem quiet_literal {value : String} : (literal value j).Quiet := by
  cases j with
  | str s => exact Validation.quiet_ite (Validation.quiet_ok _) Validation.quiet_invalid
  | _ => exact Validation.quiet_invalid

@[simp] theorem quiet_enumeration {values : List (String × α)} : (enumeration values j).Quiet := by
  cases j with
  | str s =>
    simp only [enumeration]
    split <;> simp
  | _ => exact Validation.quiet_invalid

@[simp] theorem quiet_boolean : (boolean j).Quiet := by
  cases j <;> simp [boolean]

@[simp] theorem quiet_ranged {lo hi : ℕ} : (ranged lo hi j).Quiet := by
  cases j with
  | int n =>
    exact Validation.quiet_dite (fun _ => Validation.quiet_ok _) (fun _ => Validation.quiet_invalid)
  | _ => exact Validation.quiet_invalid

@[simp] theorem quiet_optional {d : Decoder α} (hd : ∀ j, (d j).Quiet) : (optional d j).Quiet := by
  cases j <;> simp [optional, hd]

@[simp] theorem quiet_items {lo hi : ℕ} {d : Decoder α} (hd : ∀ j, (d j).Quiet) :
    (items lo hi d j).Quiet := by
  cases j with
  | arr l =>
    simp only [items, Validation.quiet_andThen]
    refine ⟨Validation.quiet_traverse hd l, fun l _ => ?_⟩
    exact Validation.quiet_dite (fun _ => Validation.quiet_ok _) (fun _ => Validation.quiet_invalid)
  | _ => exact Validation.quiet_invalid

@[simp] theorem quiet_datetime {P : Platform} : (datetime P j).Quiet := by
  cases j with
  | str s =>
    simp only [datetime]
    split <;> simp
  | _ => exact Validation.quiet_invalid

@[simp] theorem quiet_utcTimestamp {label : String} : (utcTimestamp label j).Quiet := by
  cases j with
  | str s =>
    simp only [utcTimestamp]
    split <;> simp
  | _ => exact Validation.quiet_invalid

@[simp] theorem quiet_base64 {lo hi : ℕ} {n : Option ℕ} {urlsafe : Bool} :
    (base64 lo hi n urlsafe j).Quiet := by
  simp only [base64, Validation.quiet_andThen, quiet_str, true_and]
  intro s _
  refine Validation.quiet_ite ?_ Validation.quiet_invalid
  split
  · exact Validation.quiet_ok _
  · exact Validation.quiet_invalid

@[simp] theorem quiet_model {keys : List String}
    {fields : List (Str × Json Str) → Validation PyErr α}
    (h : ∀ members, (fields members).Quiet) : (model keys fields j).Quiet := by
  cases j <;> simp [model, h]

@[simp] theorem quiet_field {members : List (Str × Json Str)} {key : String} {d : Decoder α}
    (hd : ∀ j, (d j).Quiet) : (field members key d).Quiet := by
  unfold field
  split
  · exact hd _
  · exact Validation.quiet_invalid

@[simp] theorem quiet_fieldOr {members : List (Str × Json Str)} {key : String} {default : α}
    {d : Decoder α} (hd : ∀ j, (d j).Quiet) : (fieldOr members key default d).Quiet := by
  unfold fieldOr
  split
  · exact hd _
  · exact Validation.quiet_ok _

@[simp] theorem quiet_after {check : α → Except PyErr Unit} {mk : (a : α) → check a = .ok () → β}
    {model : Validation PyErr α} (h : model.Quiet) (hc : ∀ a, OnlyValueErrors (check a)) :
    (after mk model).Quiet := by
  simp only [after, Validation.quiet_andThen]
  exact ⟨h, fun a _ => Validation.quiet_refine (hc a)⟩

@[simp] theorem quiet_modelAfter {keys : List String} {check : α → Except PyErr Unit}
    {mk : (a : α) → check a = .ok () → β} {fields : List (Str × Json Str) → Validation PyErr α}
    (h : ∀ members, (fields members).Quiet) (hc : ∀ a, OnlyValueErrors (check a)) :
    (modelAfter keys mk fields j).Quiet :=
  quiet_after (quiet_model h) hc

theorem quiet_after_iff {check : α → Except PyErr Unit} {mk : (a : α) → check a = .ok () → β}
    {model : Validation PyErr α} :
    (after mk model).Quiet ↔ model.Quiet ∧ ∀ a, model = .ok a → OnlyValueErrors (check a) := by
  simp only [after, Validation.quiet_andThen, Validation.quiet_refine_iff, OnlyValueErrors]

theorem quiet_field_iff {members : List (Str × Json Str)} {key : String} {d : Decoder α} :
    (field members key d).Quiet ↔ ∀ j, members.lookup (lit key) = some j → (d j).Quiet := by
  unfold field
  cases members.lookup (lit key) <;> simp

/-- A decoder raises nothing that its caller would catch. -/
def Uncaught (x : Validation PyErr α) : Prop := x.RaisesOnly fun e => e.isValueError = false

theorem uncaught_after {check : α → Except PyErr Unit} {mk : (a : α) → check a = .ok () → β}
    {model : Validation PyErr α} (h : Uncaught model) : Uncaught (after mk model) :=
  Validation.RaisesOnly.andThen h fun _ => Validation.raisesOnly_refine

theorem uncaught_model {keys : List String} {fields : List (Str × Json Str) → Validation PyErr α}
    (h : ∀ members, Uncaught (fields members)) : Uncaught (model keys fields j) := by
  cases j with
  | obj members => exact Validation.RaisesOnly.orInvalid (h members)
  | _ => exact Validation.quiet_invalid.raisesOnly

theorem uncaught_field {members : List (Str × Json Str)} {key : String} {d : Decoder α}
    (hd : ∀ j, Uncaught (d j)) : Uncaught (field members key d) := by
  unfold field
  split
  · exact hd _
  · exact Validation.quiet_invalid.raisesOnly

end Decode

/-! ## Models built by the program -/

/-- A tuple field of bounded length. -/
def boundedItems {α : Type} (lo hi : ℕ) (l : List α) : Except PyErr (Items α lo hi) :=
  if h : lo ≤ l.length ∧ l.length ≤ hi then .ok ⟨l, h⟩ else .error .validationError

/-- The constructor of a model: an error of its validator is a `ValidationError`. -/
def construct {α β : Type} {check : α → Except PyErr Unit} (mk : (a : α) → check a = .ok () → β)
    (a : α) : Except PyErr β :=
  match h : check a with
  | .ok () => .ok (mk a h)
  | .error e => if e.isValueError then .error .validationError else .error e

theorem boundedItems_eq_ok {α : Type} {lo hi : ℕ} {l : List α} {items : Items α lo hi} :
    boundedItems lo hi l = .ok items ↔ l = items.val := by
  unfold boundedItems
  split_ifs with h
  · simp [Subtype.ext_iff]
  · refine iff_of_false (by simp) ?_
    rintro rfl
    exact h items.property

theorem construct_eq_ok {α β : Type} {check : α → Except PyErr Unit}
    {mk : (a : α) → check a = .ok () → β} {a : α} {b : β} :
    construct mk a = .ok b ↔ ∃ h, mk a h = b := by
  unfold construct
  split
  · next h => simp [h]
  · next e h => split_ifs <;> simp [h]

/-! ## Parsing -/

mutual

/-- Neither hook of `_strict_json_object` refuses the value: it has no non-finite constant
(`reject_constant`) and no object with a repeated key (`reject_duplicates`). -/
def Json.passesHooks : Json PyStr → Bool
  | .constant _ => false
  | .arr items => itemsPassHooks items
  | .obj members => decide (members.map Prod.fst).Nodup && membersPassHooks members
  | _ => true

def itemsPassHooks : List (Json PyStr) → Bool
  | [] => true
  | v :: l => v.passesHooks && itemsPassHooks l

def membersPassHooks : List (PyStr × Json PyStr) → Bool
  | [] => true
  | (_, v) :: l => v.passesHooks && membersPassHooks l

end

/-- `_strict_json_object`. -/
def strictJsonObject (P : Platform) (payload : Bytes) (label : String) :
    Except PyErr (List (PyStr × Json PyStr)) :=
  match jsonLoads P.recursionLimit payload with
  | .error _ => .error (.valueError (label ++ " is not strict UTF-8 JSON"))
  | .ok v =>
    if v.passesHooks then
      match v with
      | .obj members => .ok members
      | _ => .error (.valueError (label ++ " root must be an object"))
    else .error (.valueError (label ++ " is not strict UTF-8 JSON"))

/-- `model.model_validate_json`. -/
def modelValidateJson {α : Type} (P : Platform) (model : Decoder α) (payload : Bytes) :
    Except PyErr α :=
  match P.jiter payload with
  | none => .error .validationError
  | some j =>
    match model j with
    | .ok a => .ok a
    | .invalid => .error .validationError
    | .raised e => .error e

/-- `parse_json_model`. -/
def parseJsonModel {α : Type} (P : Platform) (model : Decoder α) (payload : Bytes)
    (label : String) : Except PyErr α := do
  let _ ← strictJsonObject P payload label
  match modelValidateJson P model payload with
  | .error .validationError => .error (.valueError (label ++ " violates its strict contract"))
  | result => result

theorem strictJsonObject_error {P : Platform} {payload : Bytes} {label : String} {e : PyErr}
    (h : strictJsonObject P payload label = .error e) : e.isValueError = true := by
  unfold strictJsonObject at h
  split at h
  · obtain rfl := Except.error.inj h
    rfl
  · split_ifs at h
    · split at h
      · cases h
      · obtain rfl := Except.error.inj h
        rfl
    · obtain rfl := Except.error.inj h
      rfl

/-- The label is in the text of the errors only. -/
theorem parseJsonModel_relabel {α : Type} {P : Platform} {model : Decoder α} {payload : Bytes}
    {label : String} {a : α} (h : parseJsonModel P model payload label = .ok a) (label' : String) :
    parseJsonModel P model payload label' = .ok a := by
  obtain ⟨members, hmembers, h⟩ := bind_eq_ok.1 h
  have hmembers' : strictJsonObject P payload label' = .ok members := by
    unfold strictJsonObject at hmembers ⊢
    split at hmembers
    · cases hmembers
    · split_ifs at hmembers with hhooks
      rw [if_pos hhooks]
      split at hmembers
      · exact hmembers
      · cases hmembers
  refine bind_eq_ok.2 ⟨members, hmembers', ?_⟩
  split at h
  · cases h
  · exact h

/-- A model whose decoder raises nothing is parsed or refused with a `ValueError`. -/
theorem parseJsonModel_error {α : Type} {P : Platform} {model : Decoder α} {payload : Bytes}
    {label : String} {e : PyErr} (quiet : ∀ j, (model j).Quiet)
    (h : parseJsonModel P model payload label = .error e) : e.isValueError = true := by
  rcases bind_eq_error.1 h with h | ⟨_, -, h⟩
  · exact strictJsonObject_error h
  · unfold modelValidateJson at h
    cases hj : P.jiter payload with
    | none =>
      simp only [hj, Except.error.injEq] at h
      subst h
      rfl
    | some j =>
      cases hm : model j with
      | ok a => simp [hj, hm] at h
      | invalid =>
        simp only [hj, hm, Except.error.injEq] at h
        subst h
        rfl
      | raised e' => exact absurd hm (quiet j e')

/-- What escapes the parser was raised by the decoder, on a text that both parsers accept. -/
theorem parseJsonModel_escapes {α : Type} {P : Platform} {model : Decoder α} {payload : Bytes}
    {label : String} {e : PyErr} (he : e.isValueError = false) :
    parseJsonModel P model payload label = .error e ↔
      (∃ members, strictJsonObject P payload label = .ok members) ∧
        ∃ j, P.jiter payload = some j ∧ model j = .raised e := by
  have hvalidation : e ≠ .validationError := by
    rintro rfl
    cases he
  unfold parseJsonModel
  rw [bind_eq_error]
  constructor
  · rintro (h | ⟨members, hmembers, h⟩)
    · rw [strictJsonObject_error h] at he
      cases he
    · refine ⟨⟨members, hmembers⟩, ?_⟩
      unfold modelValidateJson at h
      cases hj : P.jiter payload with
      | none =>
        simp only [hj, Except.error.injEq] at h
        subst h
        cases he
      | some j =>
        refine ⟨j, rfl, ?_⟩
        cases hm : model j with
        | ok a => simp [hj, hm] at h
        | invalid =>
          simp only [hj, hm, Except.error.injEq] at h
          subst h
          cases he
        | raised e' =>
          simp only [hj, hm] at h
          split at h
          · obtain rfl := Except.error.inj h
            cases he
          · rw [Except.error.inj h]
  · rintro ⟨⟨members, hmembers⟩, j, hj, hm⟩
    refine .inr ⟨members, hmembers, ?_⟩
    unfold modelValidateJson
    simp only [hj, hm]
    split
    · next heq => exact absurd (Except.error.inj heq) hvalidation
    · rfl

/-- `model_validate_json` reads the same value as `json.loads`. -/
def Platform.ReadsText (P : Platform) : Prop :=
  ∀ b v, jsonLoads P.recursionLimit b = .ok v → P.jiter b = jiterValue v

/-- The first parser accepts a canonical object whose numbers and nesting it can read. -/
theorem strictJsonObject_canonicalJson {P : Platform} {members : List (Str × Canon)}
    (hread : (Canon.obj members).readable P.recursionLimit = true)
    (hhooks : (Canon.obj members).loaded.passesHooks = true) (label : String) :
    ∃ loaded, strictJsonObject P (canonicalJson (.obj members)) label = .ok loaded := by
  have hloads := jsonLoads_canonicalJson hread
  unfold strictJsonObject
  simp only [hloads]
  rw [if_pos hhooks]
  simp only [Canon.loaded]
  exact ⟨_, rfl⟩

/-- The second parser reads a canonical object back. -/
theorem jiter_canonicalJson {P : Platform} (hP : P.ReadsText) {members : List (Str × Canon)}
    (hread : (Canon.obj members).readable P.recursionLimit = true) :
    P.jiter (canonicalJson (.obj members)) = some (Canon.obj members).parsed := by
  rw [hP _ _ (jsonLoads_canonicalJson hread), Canon.jiterValue_loaded]

/-- Canonical JSON is parsed as the structure it was written from. -/
theorem parseJsonModel_canonicalJson {α : Type} {P : Platform} (hP : P.ReadsText)
    {members : List (Str × Canon)} {model : Decoder α} {label : String} {a : α}
    (hread : (Canon.obj members).readable P.recursionLimit = true)
    (hhooks : (Canon.obj members).loaded.passesHooks = true)
    (h : model (Canon.obj members).parsed = .ok a) :
    parseJsonModel P model (canonicalJson (.obj members)) label = .ok a := by
  obtain ⟨loaded, hstrict⟩ := strictJsonObject_canonicalJson hread hhooks label
  have hjiter := jiter_canonicalJson hP hread
  unfold parseJsonModel modelValidateJson
  simp only [hstrict, hjiter, h, ok_bind]

end ProofFlow
