import TokenBroker.Proofs.Endpoint.Tokens
import TokenBroker.Proofs.Store.Written

/-!
# Stores with other tokens

Two stores differ in tokens at most if they have the same keys in the same order, and under each of
them clients of which the same is shown (`AuthorizedClient.SameButTokens`); on disk, values that are
read back as such clients, or one value. They are loaded and changed alike, and log the same.
-/

namespace TokenBroker

/-! ## Tables -/

namespace Table

variable {κ α β : Type} {R : α → β → Prop} {t : Table κ α} {t' : Table κ β} {k : κ} {a : α} {b : β}

/-- Two tables of the same keys in the same order, whose values are related. -/
def Rel (R : α → β → Prop) (t : Table κ α) (t' : Table κ β) : Prop :=
  List.Forall₂ (fun x x' => x'.1 = x.1 ∧ R x.2 x'.2) t t'

theorem rel_refl {R : α → α → Prop} (refl : ∀ a, R a a) (t : Table κ α) : Rel R t t :=
  List.forall₂_same.2 fun x _ => ⟨rfl, refl x.2⟩

variable [DecidableEq κ]

theorem Rel.get? (h : Rel R t t') (k : κ) : Option.Rel R (t.get? k) (t'.get? k) := by
  induction h with
  | nil => exact .none
  | @cons x x' t t' first rest ih =>
    obtain ⟨k₀, a⟩ := x
    obtain ⟨_, b⟩ := x'
    obtain ⟨rfl, values⟩ := first
    rw [get?_cons, get?_cons]
    split
    · exact .some values
    · exact ih

theorem Rel.put (h : Rel R t t') (k : κ) (values : R a b) : Rel R (t.put k a) (t'.put k b) := by
  induction h with
  | nil => exact .cons ⟨rfl, values⟩ .nil
  | @cons x x' t t' first rest ih =>
    obtain ⟨k₀, a₀⟩ := x
    obtain ⟨_, b₀⟩ := x'
    obtain ⟨rfl, values₀⟩ := first
    simp only [Table.put]
    split
    · exact .cons ⟨rfl, values⟩ rest
    · exact .cons ⟨rfl, values₀⟩ ih

theorem Rel.erase (h : Rel R t t') (k : κ) : Rel R (t.erase k) (t'.erase k) := by
  refine List.rel_filter (fun x x' related => ?_) h
  simp only [related.1]

end Table

/-! ## Clients -/

/-- Two access tokens of which the same is shown. -/
structure AccessToken.SameButValue (t t' : AccessToken) : Prop where
  value : SameMask t.value t'.value
  tokenType : t'.tokenType = t.tokenType
  scopes : t'.scopes = t.scopes
  issuedAt : t'.issuedAt = t.issuedAt
  expiresAt : t'.expiresAt = t.expiresAt

theorem AccessToken.SameButValue.refl (t : AccessToken) : t.SameButValue t :=
  ⟨.same rfl, rfl, rfl, rfl, rfl⟩

/-- Two refresh tokens of one time of issue. -/
def RefreshToken.SameButValue (t t' : RefreshToken) : Prop := t'.issuedAt = t.issuedAt

/-- Two clients of one registration and principal that differ in the values of their tokens at
most. -/
structure AuthorizedClient.SameButTokens (c c' : AuthorizedClient) : Prop where
  registration : c'.registration = c.registration
  principalName : c'.principalName = c.principalName
  accessToken : c.accessToken.SameButValue c'.accessToken
  refreshToken : Option.Rel RefreshToken.SameButValue c.refreshToken c'.refreshToken

namespace AuthorizedClient.SameButTokens

variable {c c' : AuthorizedClient}

theorem refl (c : AuthorizedClient) : SameButTokens c c where
  registration := rfl
  principalName := rfl
  accessToken := .refl _
  refreshToken := by
    cases c.refreshToken with
    | none => exact .none
    | some t => exact .some rfl

theorem key (h : SameButTokens c c') : c'.key = c.key := by
  simp only [AuthorizedClient.key, h.registration, h.principalName]

theorem bind (h : SameButTokens c c') (r : ClientRegistration) :
    SameButTokens (c.bind r) (c'.bind r) :=
  ⟨rfl, h.principalName, h.accessToken, h.refreshToken⟩

theorem withoutSecret (h : SameButTokens c c') :
    SameButTokens c.withoutSecret c'.withoutSecret := by
  refine ⟨?_, h.principalName, h.accessToken, h.refreshToken⟩
  simp only [AuthorizedClient.withoutSecret, h.registration]
  rfl

/-- A summary shows nothing of the values but the mask of the access token. -/
theorem describe (h : SameButTokens c c') : c'.describe false = c.describe false := by
  obtain ⟨value, tokenType, scopes, issuedAt, expiresAt⟩ := h.accessToken
  simp only [AuthorizedClient.describe, h.registration, h.principalName,
    Option.isSome_of_rel h.refreshToken, Bool.false_eq_true, if_false, value.mask, tokenType,
      scopes, issuedAt, expiresAt]

end AuthorizedClient.SameButTokens

/-! ## Stores -/

namespace Store

/-- Two values that a store on disk keeps: the same, or such as are read back as clients that differ
in tokens at most. -/
inductive SameButTokenValues : Json → Json → Prop
  | same (j : Json) : SameButTokenValues j j
  | read {j j' : Json} {c c' : AuthorizedClient} (kept : readBack j = .ok c)
      (kept' : readBack j' = .ok c') (clients : c.SameButTokens c') : SameButTokenValues j j'

/-- Two stores of one kind that differ in tokens at most. -/
inductive SameButTokens : Store → Store → Prop
  | memory {t t' : Table Key AuthorizedClient} (clients : t.Rel AuthorizedClient.SameButTokens t') :
      SameButTokens (.memory t) (.memory t')
  | disk {t t' : Table Key Json} (values : t.Rel SameButTokenValues t') :
      SameButTokens (.disk t) (.disk t')

/-- What a client is read back from counts as something stored. -/
theorem isNothing_of_readBack {j : Json} {c : AuthorizedClient} (kept : readBack j = .ok c) :
    isNothing j = false := by
  cases j with
  | null => cases kept
  | float x =>
    cases x with
    | nan => cases kept
    | _ => rfl
  | _ => rfl

namespace SameButTokens

variable {s s' : Store} {c c' : AuthorizedClient}

theorem refl (s : Store) : SameButTokens s s := by
  cases s with
  | memory t => exact .memory (Table.rel_refl .refl t)
  | disk t => exact .disk (Table.rel_refl .same t)

theorem values (h : SameButTokens s s') : Table.Rel SameButTokenValues s.values s'.values := by
  cases h with
  | memory => exact .nil
  | disk values => exact values

theorem remove (h : SameButTokens s s') (k : Key) : SameButTokens (s.remove k) (s'.remove k) := by
  cases h with
  | memory clients => exact .memory (clients.erase k)
  | disk values => exact .disk (values.erase k)

theorem save (h : SameButTokens s s') (clients : c.SameButTokens c') :
    SameButTokens (s.save c) (s'.save c') := by
  cases h with
  | memory others =>
    rw [Store.save, Store.save, clients.key]
    exact .memory (others.put c.key clients)
  | disk others =>
    rw [Store.save, Store.save, clients.key]
    exact .disk (others.put c.key (.read (readBack_written c) (readBack_written c')
      clients.withoutSecret))

/-- What is loaded differs in tokens at most, and so do the stores afterwards. -/
theorem load (h : SameButTokens s s') (k : Key) :
    Option.Rel AuthorizedClient.SameButTokens (s.load k).client (s'.load k).client ∧
      SameButTokens (s.load k).store (s'.load k).store ∧ (s'.load k).log = (s.load k).log := by
  cases h with
  | memory clients => exact ⟨clients.get? k, .memory clients, rfl⟩
  | @disk t t' values =>
    have found := values.get? k
    simp only [Store.load]
    revert found
    generalize t.get? k = j, t'.get? k = j'
    rintro (@⟨j, j', value⟩ | _)
    · cases value with
      | same =>
        simp only []
        split
        · exact ⟨.none, .disk values, rfl⟩
        · split
          · exact ⟨.some (AuthorizedClient.SameButTokens.refl _), .disk values, rfl⟩
          · exact ⟨.none, (SameButTokens.disk values).remove k, rfl⟩
      | read kept kept' clients =>
        simp only [isNothing_of_readBack kept, isNothing_of_readBack kept', Bool.false_eq_true,
          if_false, kept, kept']
        exact ⟨.some clients, .disk values, trivial⟩
    · exact ⟨.none, .disk values, rfl⟩

end SameButTokens

end Store

end TokenBroker
