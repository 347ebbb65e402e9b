import TokenBroker.Proofs.Host
import TokenBroker.Proofs.Json.Distinct
import TokenBroker.Proofs.Validation
import TokenBroker.Settings.File

/-!
# What loaded settings hold

Settings that are loaded are the default ones, if there is no file, and else what the JSON value
says that stands in the file (`Action.cases_of_loadSettings`). Since such a value has no name twice,
no registration is held twice (`Action.nodup_of_loadSettings`).

A policy for lifetimes that passes its check has a margin that is not negative and a default
lifetime of at most ten years, and no other bounds (`LifetimePolicy.isAccepted_iff`). Settings hold
a policy that has passed it, and so do settings that are loaded, from a file or by default
(`Settings.isAccepted_lifetimes`, `Action.isAccepted_of_loadSettings`).
-/

namespace TokenBroker

namespace Settings

variable {s : Settings} {text : String} {j : Json} {levels : Json.Levels}

/-- Settings are read of a text by way of JSON. -/
theorem exists_of_ofText (h : ofText levels text = .ok s) :
    ∃ j, Json.read text = .ok j ∧ ofJson j = .ok s := by
  unfold ofText at h
  split at h
  · cases h
  · next j read =>
    cases parsed : parse j with
    | error invalid =>
      rw [parsed] at h
      cases h
    | ok settings =>
      rw [parsed] at h
      cases h
      exact ⟨j, Json.read_of_readWithin read, Checked.eq_ok_of_named parsed⟩

/-- A value that has passed its check is an object, and so have its members under their names. -/
theorem members_of_ofJson (h : ofJson j = .ok s) : ∃ ms, j = .obj ms ∧
    Validate.defaulted "registrations" (Validate.objectOf RegistrationEntry.ofJson)
      [] ms = .ok s.registrations ∧
    Validate.defaulted "engine" LifetimePolicy.ofJson {} ms = .ok s.lifetimes ∧
    Validate.defaulted "request" RequestSettings.ofJson {} ms = .ok s.requests ∧
    Validate.defaulted "store" StoreSettings.ofJson {} ms = .ok s.store := by
  obtain ⟨ms, rfl, members⟩ := Validate.eq_obj_of_model h
  -- the last one first
  obtain ⟨_, store, withRequests, fourth, rfl⟩ := Checked.exists_of_seq members
  obtain ⟨_, requests, withLifetimes, third, rfl⟩ := Checked.exists_of_seq withRequests
  obtain ⟨_, lifetimes, withRegistrations, second, rfl⟩ := Checked.exists_of_seq withLifetimes
  obtain ⟨registrations, first, rfl⟩ := Checked.exists_of_map withRegistrations
  exact ⟨ms, rfl, first, second, third, fourth⟩

/-- The registrations are those under one name of the value, and have the names that they have
there. -/
theorem cases_of_registrations (h : ofJson j = .ok s) :
    s.registrations = [] ∨ ∃ ms entries, j = .obj ms ∧ Json.lookup? "registrations" ms = some
      (.obj entries) ∧
      s.registrations.map (·.1) = entries.map (·.1) := by
  obtain ⟨ms, rfl, checked, -⟩ := members_of_ofJson h
  rcases Validate.cases_of_defaulted checked with ⟨-, none⟩ | ⟨value, found, checked⟩
  · exact .inl none
  · obtain ⟨entries, rfl, names⟩ := Validate.names_of_objectOf checked
    exact .inr ⟨ms, entries, rfl, found, names⟩

/-- The settings name each registration once. -/
theorem nodup_of_ofJson (h : ofJson j = .ok s) (distinct : j.Distinct) :
    (s.registrations.map (·.1)).Nodup := by
  rcases cases_of_registrations h with none | ⟨ms, entries, rfl, found, names⟩
  · rw [none]
    exact List.nodup_nil
  · rw [names]
    exact (Json.distinct_of_lookup? distinct.2 found).1

end Settings

namespace Action

variable {host host' : Host} {path : Option Path} {s : Settings}

theorem settingsOf_run (text : String) (h : Host) :
    settingsOf text h = (Settings.ofText h.nesting.levels text, h) := rfl

/-- Loaded settings are the default ones, or what the text of a file says. -/
theorem cases_of_loadSettings (ran : loadSettings path host = (.ok s, host')) :
    path = none ∧ s = {} ∨ ∃ p text j, path = some p ∧ readText p host = (.ok text, host') ∧
      Json.read text = .ok j ∧ Settings.ofJson j = .ok s := by
  cases path with
  | none =>
    cases ran
    exact .inl ⟨rfl, rfl⟩
  | some p =>
    obtain ⟨found, between, looked, loaded⟩ := exists_of_bind ran
    have unchanged : host = between := congrArg Prod.snd looked
    subst unchanged
    split at loaded
    · obtain ⟨text, _, read, given⟩ := exists_of_bind (eq_ok_of_adapt loaded)
      obtain ⟨j, parsed, checked⟩ := Settings.exists_of_ofText (congrArg Prod.fst given)
      cases congrArg Prod.snd given
      exact .inr ⟨p, text, j, rfl, read, parsed, checked⟩
    · cases loaded

/-- Loaded settings hold no registration twice. -/
theorem nodup_of_loadSettings (ran : loadSettings path host = (.ok s, host')) :
    (s.registrations.map (·.1)).Nodup := by
  rcases cases_of_loadSettings ran with ⟨-, rfl⟩ | ⟨p, text, j, -, -, read, checked⟩
  · exact List.nodup_nil
  · exact Settings.nodup_of_ofJson checked (Json.distinct_of_read read)

end Action

/-! ## Accepted lifetimes -/

namespace LifetimePolicy

/-- Whether a policy is one that passes the check of some JSON value. -/
def IsAccepted (p : LifetimePolicy) : Prop := ∃ j, ofJson j = .ok p

variable {p : LifetimePolicy} {j : Json}

/-- The lifetimes that are read are within their bounds. -/
theorem bounds_of_ofJson (h : ofJson j = .ok p) :
    0 ≤ p.clockSkew ∧ 0 < p.defaultLifetime ∧ p.defaultLifetime ≤ maxLifetime := by
  obtain ⟨ms, -, members⟩ := Validate.eq_obj_of_model h
  obtain ⟨_, lifetime, made, second, rfl⟩ := Checked.exists_of_seq members
  obtain ⟨margin, first, rfl⟩ := Checked.exists_of_map made
  refine ⟨?_, ?_⟩
  · refine Validate.holds_of_defaulted (P := fun n : Int => 0 ≤ n) (Int.le_refl 0) ?_ first
    intro j n checked
    obtain ⟨m, -, checked⟩ := Checked.exists_of_andThen checked
    exact (Validate.atLeast_eq_ok checked).2
  · refine Validate.holds_of_defaulted (P := fun n : Int => 0 < n ∧ n ≤ maxLifetime)
      (by decide) ?_ second
    intro j n checked
    obtain ⟨m, positive, checked⟩ := Checked.exists_of_andThen checked
    obtain ⟨l, -, positive⟩ := Checked.exists_of_andThen positive
    obtain ⟨rfl, high⟩ := Validate.atMost_eq_ok checked
    exact ⟨(Validate.above_eq_ok positive).2, high⟩

/-- A policy within the bounds is read back as it is written. -/
theorem ofJson_toJson (margin : 0 ≤ p.clockSkew) (positive : 0 < p.defaultLifetime)
    (high : p.defaultLifetime ≤ maxLifetime) : ofJson p.toJson = .ok p := by
  unfold ofJson toJson
  simp [Validate.model, Validate.defaulted, Json.lookup?, Validate.int, Checked.andThen,
    Validate.atLeast, Validate.above, Validate.atMost, margin, positive, high]

/-- Lifetimes are accepted within their bounds. -/
theorem isAccepted_iff :
    p.IsAccepted ↔ 0 ≤ p.clockSkew ∧ 0 < p.defaultLifetime ∧ p.defaultLifetime ≤ maxLifetime :=
  ⟨fun ⟨_, h⟩ => bounds_of_ofJson h,
    fun ⟨margin, positive, high⟩ => ⟨p.toJson, ofJson_toJson margin positive high⟩⟩

/-- The lifetimes by default are accepted. -/
theorem isAccepted_default : IsAccepted {} := isAccepted_iff.2 (by decide)

end LifetimePolicy

theorem Settings.isAccepted_lifetimes {s : Settings} {j : Json} (h : Settings.ofJson j = .ok s) :
    s.lifetimes.IsAccepted := by
  obtain ⟨ms, -, -, checked, -⟩ := members_of_ofJson h
  exact Validate.holds_of_defaulted LifetimePolicy.isAccepted_default (fun checked => ⟨_, checked⟩)
    checked

namespace Action

variable {host host' : Host}

/-- Loaded settings have an accepted policy for lifetimes. -/
theorem isAccepted_of_loadSettings {path : Option Path} {s : Settings}
    (ran : loadSettings path host = (.ok s, host')) : s.lifetimes.IsAccepted := by
  rcases cases_of_loadSettings ran with ⟨-, rfl⟩ | ⟨p, text, j, -, -, -, checked⟩
  · exact LifetimePolicy.isAccepted_default
  · exact Settings.isAccepted_lifetimes checked

end Action

end TokenBroker
