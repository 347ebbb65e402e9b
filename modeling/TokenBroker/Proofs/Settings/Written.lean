import TokenBroker.Proofs.Json.Reading
import TokenBroker.Proofs.Settings.Loaded
import TokenBroker.Proofs.Store.Written

/-!
# Settings as they are written

Settings that have passed their check are read back from the JSON value that is written of them
(`Settings.ofJson_toJson`), with their registrations in the same order. Only the lifetimes and the
timeout have bounds to keep; everything else is read back whatever it is. The value has no name
twice, if no registration has (`Settings.distinct_toJson`).
-/

namespace TokenBroker

namespace Validate

variable {α : Type}

/-- Entries whose values are read back are read back, in their order. -/
theorem objectOf_map {check : Json → Checked α} {write : α → Json}
    (read : ∀ x, check (write x) = .ok x) (entries : List (String × α)) :
    objectOf check (.obj (entries.map fun e => (e.1, write e.2))) = .ok entries := by
  unfold objectOf
  simp only [List.map_map]
  induction entries with
  | nil => rfl
  | cons e entries ih =>
    rw [List.map_cons, Checked.all, ih]
    simp only [Function.comp_apply, read]
    rfl

@[simp] theorem float_float (x : Binary64) : float (.float x) = .ok x := rfl

@[simp] theorem bool_bool (b : Bool) : bool (.bool b) = .ok b := rfl

end Validate

@[simp] theorem RegistrationEntry.ofJson_toJson (r : RegistrationEntry) :
    ofJson r.toJson = .ok r := by
  unfold ofJson toJson toMembers
  simp [Validate.model, Validate.required, Validate.optional, Validate.defaulted, Json.lookup?]

namespace RequestSettings

variable {r : RequestSettings} {j : Json}

/-- Requests with a positive timeout are read as they were written. -/
theorem ofJson_toJson (positive : r.timeout.isPositive = true) : ofJson r.toJson = .ok r := by
  unfold ofJson toJson
  simp [Validate.model, Validate.defaulted, Json.lookup?, Checked.andThen, Validate.positive,
    positive]

theorem isPositive_default : (Binary64.ofRatio false 30 1).isPositive = true := by decide

/-- A value that has passed its check is an object, and so has the timeout under its name. -/
theorem timeout_of_ofJson (h : ofJson j = .ok r) : ∃ ms, j = .obj ms ∧
    Validate.defaulted "timeout" (fun j => (Validate.float j).andThen Validate.positive)
      (.ofRatio false 30 1) ms = .ok r.timeout := by
  obtain ⟨ms, rfl, members⟩ := Validate.eq_obj_of_model h
  obtain ⟨_, verify, withTimeout, -, rfl⟩ := Checked.exists_of_seq members
  obtain ⟨timeout, checked, rfl⟩ := Checked.exists_of_map withTimeout
  exact ⟨ms, rfl, checked⟩

/-- A timeout that has passed its check is greater than zero. -/
theorem isPositive_of_ofJson (h : ofJson j = .ok r) : r.timeout.isPositive = true := by
  obtain ⟨ms, -, checked⟩ := timeout_of_ofJson h
  refine Validate.holds_of_defaulted (P :=
    fun x : Binary64 => x.isPositive = true) isPositive_default ?_ checked
  intro j x checked
  obtain ⟨y, -, positive⟩ := Checked.exists_of_andThen checked
  exact (Validate.positive_eq_ok positive).2

end RequestSettings

@[simp] theorem StoreSettings.ofJson_toJson (s : StoreSettings) : ofJson s.toJson = .ok s := by
  unfold ofJson toJson
  simp [Validate.model, Validate.optional, Validate.defaulted, Json.lookup?]

namespace Settings

variable {s : Settings} {j : Json}

/-- A timeout that is read is positive. -/
theorem isPositive_timeout (h : ofJson j = .ok s) : s.requests.timeout.isPositive = true := by
  obtain ⟨ms, -, -, -, checked, -⟩ := members_of_ofJson h
  exact Validate.holds_of_defaulted (P := fun r : RequestSettings => r.timeout.isPositive = true)
    RequestSettings.isPositive_default RequestSettings.isPositive_of_ofJson checked

/-- Settings that have passed their check are read back as they are. -/
theorem ofJson_toJson (h : ofJson j = .ok s) : ofJson s.toJson = .ok s := by
  obtain ⟨margin, positive, high⟩ := LifetimePolicy.isAccepted_iff.1 (isAccepted_lifetimes h)
  have lifetimes := LifetimePolicy.ofJson_toJson margin positive high
  have requests := RequestSettings.ofJson_toJson (isPositive_timeout h)
  have registrations := Validate.objectOf_map RegistrationEntry.ofJson_toJson s.registrations
  unfold ofJson toJson
  simp [Validate.model, Validate.defaulted, Json.lookup?, lifetimes, requests, registrations]

end Settings

/-! ## Names -/

theorem Json.itemsDistinct_strings (ss : List String) : ItemsDistinct (ss.map .str) := by
  induction ss with
  | nil => trivial
  | cons s ss ih => exact ⟨trivial, ih⟩

theorem Json.distinct_ofOption (s : Option String) : (Json.ofOption s).Distinct := by
  cases s <;> trivial

theorem RegistrationEntry.distinct_toJson (r : RegistrationEntry) : r.toJson.Distinct := by
  refine ⟨by simp [toMembers], ?_⟩
  simp [toMembers, Json.MembersDistinct, Json.Distinct, Json.distinct_ofOption, Json.ofStrings,
    Json.itemsDistinct_strings]

/-- Settings without repeated registrations are written without repeated names. -/
theorem Settings.distinct_toJson {s : Settings} (nodup : (s.registrations.map (·.1)).Nodup) :
    s.toJson.Distinct := by
  have registrations : (Json.obj (s.registrations.map fun e => (e.1, e.2.toJson))).Distinct := by
    refine ⟨by rwa [List.map_map], ?_⟩
    clear nodup
    induction s.registrations with
    | nil => trivial
    | cons e entries ih => exact ⟨e.2.distinct_toJson, ih⟩
  refine ⟨by simp, registrations, ?_⟩
  simp [Json.MembersDistinct, LifetimePolicy.toJson, RequestSettings.toJson, StoreSettings.toJson,
    Json.Distinct, Json.distinct_ofOption]

/-! ## Heights -/

theorem Json.itemsHeight_strings (ss : List String) : itemsHeight (ss.map .str) = 0 := by
  induction ss with
  | nil => rfl
  | cons s ss ih =>
    rw [List.map_cons, itemsHeight, ih]
    rfl

theorem Json.height_ofOption (s : Option String) : (Json.ofOption s).height = 0 := by
  cases s <;> rfl

theorem RegistrationEntry.height_toJson (r : RegistrationEntry) : r.toJson.height = 2 := by
  simp [toJson, toMembers, Json.height, Json.membersHeight, Json.height_ofOption, Json.ofStrings,
    Json.itemsHeight_strings]

/-- Settings are written in few containers within each other. -/
theorem Settings.height_toJson_le (s : Settings) : s.toJson.height ≤ 4 := by
  have registrations : Json.membersHeight (s.registrations.map fun e => (e.1, e.2.toJson)) ≤ 2 := by
    induction s.registrations with
    | nil => exact Nat.zero_le _
    | cons e entries ih =>
      rw [List.map_cons, Json.membersHeight, RegistrationEntry.height_toJson]
      exact Nat.max_le.2 ⟨Nat.le_refl _, ih⟩
  have engine : s.lifetimes.toJson.height = 1 := rfl
  have request : s.requests.toJson.height = 1 := rfl
  have store : s.store.toJson.height = 1 := by
    simp [StoreSettings.toJson, Json.height, Json.membersHeight, Json.height_ofOption]
  simp only [toJson, Json.height, Json.membersHeight, engine, request, store]
  omega

end TokenBroker
