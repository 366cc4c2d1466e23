import AccountSecurity.Http.Route
import Mathlib.Data.List.Forall2

/-!
# What is read from bodies

* `Json.HasField` : a body has a text in a field, which satisfies the rule of the field;
* `RequestModel.readFields_eq_ok`, `RequestModel.readBody_eq_ok` : a body is read if it has all fields of its model.
-/

namespace AccountSecurity

/-- The body has a text in a field, which satisfies the rule of the field. -/
structure Json.HasField (body : Json) (field : String × Rule) (read : String × String) : Prop where
  name : read.1 = field.1
  found : body.field? field.1 = some (.string read.2)
  satisfied : field.2.issue? read.2 = none

namespace RequestModel
variable {body : Json} {name s : String} {rule : Rule} {values : List (String × String)}

theorem readField_eq_ok :
    readField body name rule = .ok s ↔ body.field? name = some (.string s) ∧ rule.issue? s = none := by
  unfold readField
  cases body.field? name with
  | none => simp
  | some value =>
    cases value with
    | string t =>
      dsimp only
      cases hi : rule.issue? t with
      | none =>
        simp only [Except.ok.injEq, Option.some.injEq, Json.string.injEq]
        exact ⟨fun h => ⟨h, h ▸ hi⟩, And.left⟩
      | some i =>
        simp only [reduceCtorEq, Option.some.injEq, Json.string.injEq, false_iff, not_and]
        rintro rfl hnone
        cases hnone.symm.trans hi
    | _ => simp

/-- Fields are read if each of them is. -/
theorem readFields_eq_ok {fields : List (String × Rule)} :
    readFields body fields = .ok values ↔ List.Forall₂ body.HasField fields values := by
  induction fields generalizing values with
  | nil => cases values <;> simp [readFields]
  | cons field fields ih =>
    obtain ⟨name, rule⟩ := field
    rw [List.forall₂_cons_left_iff]
    constructor
    · intro h
      rw [readFields] at h
      split at h
      · next s rest hs hrest =>
        cases h
        obtain ⟨hfound, hsatisfied⟩ := readField_eq_ok.1 hs
        exact ⟨_, _, ⟨rfl, hfound, hsatisfied⟩, ih.1 hrest, rfl⟩
      all_goals cases h
    · rintro ⟨⟨_, s⟩, rest, ⟨rfl, hfound, hsatisfied⟩, hrest, rfl⟩
      rw [readFields, readField_eq_ok.2 ⟨hfound, hsatisfied⟩, ih.2 hrest]

/-- **A body is read** if it has all fields of its model. -/
theorem readBody_eq_ok {m : RequestModel} {body : Option Json} :
    m.readBody body = .ok values ↔ ∃ value ∈ body, List.Forall₂ value.HasField m.fields values := by
  unfold readBody
  cases body with
  | none => simp [Except.mapError]
  | some value =>
    have hmap : (m.readObject value .noObject).mapError (fun issues => issues.map (Issue.under "body")) = .ok values ↔
        m.readObject value .noObject = .ok values := by
      cases m.readObject value .noObject <;> simp [Except.mapError]
    simp only [Option.mem_some_iff, exists_eq_left']
    rw [hmap]
    cases value with
    | object fields => exact readFields_eq_ok
    | _ =>
      refine ⟨nofun, fun h => ?_⟩
      -- every model has a field, and only objects have fields
      cases m <;> (obtain ⟨_, _, hfield, -⟩ := List.forall₂_cons_left_iff.1 h; cases hfield.found)

/-- What is read for a model with one field. -/
theorem eq_of_hasField {field : String × Rule} (h : List.Forall₂ body.HasField [field] values) :
    ∃ s, values = [(field.1, s)] := by
  obtain ⟨⟨n, s⟩, rest, hs, hrest, rfl⟩ := List.forall₂_cons_left_iff.1 h
  obtain rfl : n = field.1 := hs.name
  exact ⟨s, by rw [List.forall₂_nil_left_iff.1 hrest]⟩

/-- What is read for a model with two fields. -/
theorem eq_of_hasFields {first second : String × Rule} (h : List.Forall₂ body.HasField [first, second] values) :
    ∃ s t, values = [(first.1, s), (second.1, t)] := by
  obtain ⟨⟨n, s⟩, rest, hs, hrest, rfl⟩ := List.forall₂_cons_left_iff.1 h
  obtain rfl : n = first.1 := hs.name
  obtain ⟨t, rfl⟩ := eq_of_hasField hrest
  exact ⟨s, t, rfl⟩

end RequestModel

end AccountSecurity
