import AccountSecurity.Proofs.Store.Lawful

/-!
# Updates of accounts

* `ProfileChange.field` : the field that a change sets. An update has one change to a field at most;
* `ProfileChange.applyAll_readdressed` : what an update does to the rest of an account does not depend on the address;
* `ProfileChange.email_applyAll`, `ProfileChange.id_applyAll` : what an update leaves.
-/

namespace AccountSecurity

namespace ProfileChange

/-- The name of the field that a change sets. -/
def field : ProfileChange → String
  | email _ => "email"
  | displayName _ => "display_name"
  | phoneNumber _ => "phone_number"
  | orgUnitId _ => "org_unit_id"
  | unknown name => name

theorem apply_readdressed (c : ProfileChange) (a : Account) (e : String) :
    ∃ e', c.apply (a.readdressed e) = (c.apply a).readdressed e' := by
  cases c with
  | email v => exact ⟨v.getD e, rfl⟩
  | _ => exact ⟨e, rfl⟩

/-- Under another address, the changes do the same. -/
theorem applyAll_readdressed (changes : List ProfileChange) (a : Account) (e e' : String) :
    (applyAll (a.readdressed e) changes).readdressed e' = (applyAll a changes).readdressed e' := by
  induction changes generalizing a e with
  | nil => rfl
  | cons c rest ih =>
    obtain ⟨e₁, he₁⟩ := c.apply_readdressed a e
    unfold applyAll at ih ⊢
    rw [List.foldl_cons, List.foldl_cons, he₁, ih]

theorem email?_eq_none {c : ProfileChange} (h : c.field ≠ "email") : c.email? = none := by
  cases c with
  | email v => exact absurd rfl h
  | _ => rfl

theorem field_of_email? {c : ProfileChange} {e : String} (h : c.email? = some e) : c.field = "email" := by
  by_contra hne
  rw [email?_eq_none hne] at h
  cases h

theorem newEmail?_cons (c : ProfileChange) (rest : List ProfileChange) :
    newEmail? (c :: rest) = c.email?.or (newEmail? rest) := by
  unfold newEmail?
  rw [List.findSome?_cons]
  cases c.email? <;> rfl

/-- Changes without an address keep the address. -/
theorem email_applyAll {changes : List ProfileChange} (h : newEmail? changes = none) (a : Account) :
    (applyAll a changes).email = a.email := by
  induction changes generalizing a with
  | nil => rfl
  | cons c rest ih =>
    rw [newEmail?_cons, Option.or_eq_none_iff] at h
    obtain ⟨hc, hrest⟩ := h
    refine (ih hrest (c.apply a)).trans ?_
    cases c with
    | email v =>
      cases hc
      rfl
    | _ => rfl

theorem id_applyAll (changes : List ProfileChange) (a : Account) : (applyAll a changes).id = a.id := by
  induction changes generalizing a with
  | nil => rfl
  | cons c rest ih =>
    refine (ih (c.apply a)).trans ?_
    cases c <;> rfl

end ProfileChange

theorem newEmail?_eq_none {changes : List ProfileChange} (h : "email" ∉ changes.map ProfileChange.field) :
    newEmail? changes = none :=
  List.findSome?_eq_none_iff.2 fun _ hc => ProfileChange.email?_eq_none fun he => h (he ▸ List.mem_map_of_mem hc)

end AccountSecurity
