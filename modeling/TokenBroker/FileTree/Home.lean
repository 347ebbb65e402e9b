import TokenBroker.Environment
import TokenBroker.Failure
import TokenBroker.FileTree.Path

/-!
# Home directories

What a `~` at the start of a path stands for: alone the home directory that the environment names,
or else that of the account which runs the program; with a name the home directory of that account.
A text whose `~` stands for nothing stays as it is (`Homes.expand`), while a path with such a `~`
leads nowhere (`Path.expandHome`).
-/

namespace TokenBroker

/-- The accounts of a machine, as far as their home directories go. -/
structure Accounts where
  /-- The home directory of the account that runs the program. -/
  own : Option String := none
  /-- The home directories by the names of the accounts. -/
  named : Table String String := []
  deriving DecidableEq, Repr

/-- What home directories are looked up in. -/
structure Homes where
  environment : Environment
  accounts : Accounts
  deriving DecidableEq, Repr

namespace Homes

/-- A text without the slashes at its end. -/
def withoutSlashes (s : String) : String :=
  String.ofList (s.toList.reverse.dropWhile (· = '/')).reverse

/-- The home directory of an account, or the current one for an empty name. -/
def directory? (h : Homes) (account : String) : Option String :=
  if account = "" then (h.environment.get? "HOME").orElse fun _ => h.accounts.own
  else h.accounts.named.get? account

/-- A text with the `~` at its start put in place, if it stands for a home directory. No account is
looked up by a name with a NUL. -/
def expand (h : Homes) (s : String) : Except Fault String :=
  match s.toList with
  | '~' :: cs =>
    let account := cs.takeWhile (· ≠ '/')
    if account.contains '\x00' then .error (.file .nullByte)
    else
      match h.directory? (String.ofList account) with
      | none => .ok s
      | some home =>
        let s := withoutSlashes home ++ String.ofList (cs.dropWhile (· ≠ '/'))
        .ok (if s = "" then "/" else s)
  | _ => .ok s

end Homes

namespace Path

/-- The path with the `~` at its start put in place. A home directory may not start with a `~`
itself. -/
def expandHome (h : Homes) (p : Path) : Except Fault Path :=
  match p.anchor, p.parts with
  | .here, first :: rest =>
    if first.toList.head? = some '~' then do
      let home ← h.expand first
      if home.toList.head? = some '~' then throw .noHome
      let start := ofText home
      return { start with parts := start.parts ++ rest }
    else .ok p
  | _, _ => .ok p

/-- The current home directory. -/
def home (h : Homes) : Except Fault Path := expandHome h ⟨.here, ["~"]⟩

end Path

end TokenBroker
