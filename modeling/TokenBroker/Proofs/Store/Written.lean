import TokenBroker.Proofs.Store.Entries
import TokenBroker.Proofs.Time.Written
import TokenBroker.Proofs.Validation

/-!
# Clients as a store on disk keeps them

What is written of a client is read back as that client, but for the secret of its registration,
which is not written (`Store.readBack_written`): its texts, scopes and times are the same, the times
to the microsecond and with their offsets. So a store on disk gives back what it has saved, up to
the secret (`Store.retrieve_eq`), and either kind of store recalls a client under its own
registration (`Store.recalls`).
-/

namespace TokenBroker

/-! ## Parts of a written value -/

namespace Validate

@[simp] theorem string_str (s : String) : string (.str s) = .ok s := rfl

@[simp] theorem nullable_ofOption (s : Option String) : nullable string (.ofOption s) = .ok s := by
  cases s <;> rfl

@[simp] theorem time_render (style : DateTime.ZoneStyle) (t : DateTime) :
    time (.str (t.render style)) = .ok t := by
  simp only [time, DateTime.read_render]

@[simp] theorem nullable_ofTime (style : DateTime.ZoneStyle) (t : Option DateTime) :
    nullable time (.ofTime style t) = .ok t := by
  cases t with
  | none => rfl
  | some t =>
    show (time (.str (t.render style))).map some = _
    rw [time_render]
    rfl

/-- Items that are read back one by one are read back together. -/
theorem items_map {α : Type} {check : Json → Checked α} {write : α → Json}
    (read : ∀ x, check (write x) = .ok x) (xs : List α) : items check (xs.map write) = .ok xs := by
  have from_index (n : Nat) :
      Checked.all (((xs.map write).zipIdx n).map fun e => (check e.1).within (.index e.2)) =
        .ok xs := by
    induction xs generalizing n with
    | nil => rfl
    | cons x xs ih =>
      rw [List.map_cons, List.zipIdx_cons, List.map_cons, Checked.all, ih]
      simp only [read]
      rfl
  exact from_index 0

@[simp] theorem sequence_ofStrings (ss : List String) : sequence string (.ofStrings ss) = .ok ss :=
  items_map string_str ss

@[simp] theorem list_ofStrings (ss : List String) : list string (.ofStrings ss) = .ok ss :=
  items_map string_str ss

end Validate

@[simp] theorem GrantType.ofJson_name (g : GrantType) : GrantType.ofJson (.str g.name) = .ok g := by
  simp [GrantType.ofJson, Validate.enumeration]

@[simp] theorem ClientAuthentication.ofJson_name (m : ClientAuthentication) :
    ClientAuthentication.ofJson (.str m.name) = .ok m := by
  simp [ClientAuthentication.ofJson, Validate.enumeration]

/-! ## Registrations, tokens and clients -/

/-- A registration without its secret. -/
def ClientRegistration.withoutSecret (r : ClientRegistration) : ClientRegistration :=
  { r with clientSecret := none }

theorem ClientRegistration.ofMembers_toMembers (r : ClientRegistration) :
    ofMembers (r.toMembers false) = .ok r.withoutSecret := by
  unfold ofMembers toMembers withoutSecret
  simp [Validate.required, Validate.optional, Validate.defaulted, Json.lookup?]

@[simp] theorem AccessToken.ofJson_toJson (style : DateTime.ZoneStyle) (t : AccessToken) :
    ofJson (t.toJson style) = .ok t := by
  unfold ofJson toJson
  simp [Validate.model, Validate.required, Validate.optional, Validate.defaulted, Json.lookup?]

@[simp] theorem RefreshToken.ofJson_toJson (style : DateTime.ZoneStyle) (t : RefreshToken) :
    ofJson (t.toJson style) = .ok t := by
  unfold ofJson toJson
  simp [Validate.model, Validate.required, Validate.optional, Validate.defaulted, Json.lookup?]

namespace AuthorizedClient

/-- A client whose registration has no secret. -/
def withoutSecret (c : AuthorizedClient) : AuthorizedClient := c.bind c.registration.withoutSecret

theorem nullable_refreshToken (style : DateTime.ZoneStyle) (t : Option RefreshToken) :
    Validate.nullable RefreshToken.ofJson ((t.map (RefreshToken.toJson style)).getD .null) =
      .ok t := by
  cases t with
  | none => rfl
  | some t =>
    show (RefreshToken.ofJson (t.toJson style)).map some = _
    rw [RefreshToken.ofJson_toJson]
    rfl

theorem ofJson_toJson (style : DateTime.ZoneStyle) (c : AuthorizedClient) :
    ofJson (c.toJson style false) = .ok c.withoutSecret := by
  have registration :
      ClientRegistration.ofJson (.obj (c.registration.toMembers false)) =
        .ok c.registration.withoutSecret :=
    ClientRegistration.ofMembers_toMembers c.registration
  unfold ofJson toJson withoutSecret bind
  simp [Validate.model, Validate.required, Validate.optional, Validate.defaulted, Json.lookup?,
    registration, nullable_refreshToken]

end AuthorizedClient

/-! ## Stores on disk -/

namespace Store

theorem readBack_written (c : AuthorizedClient) : readBack (written c) = .ok c.withoutSecret := by
  simp only [readBack, written, AuthorizedClient.ofJson_toJson]
  rfl

theorem isNothing_written (c : AuthorizedClient) : isNothing (written c) = false := rfl

/-- What a kind of store keeps of a client. -/
def kept : StoreKind → AuthorizedClient → AuthorizedClient
  | .memory, c => c
  | .disk, c => c.withoutSecret

/-- Every client that is saved is given back as it is kept. -/
theorem retrieve_eq (kind : StoreKind) (c : AuthorizedClient) :
    retrieve kind c = some (kept kind c) := by
  cases kind with
  | memory => rfl
  | disk =>
    show (readBack (written c)).toOption = _
    rw [readBack_written]
    rfl

theorem recalls (kind : StoreKind) : Recalls kind := by
  intro c
  refine ⟨kept kind c, retrieve_eq kind c, ?_⟩
  cases kind <;> rfl

end Store

end TokenBroker
