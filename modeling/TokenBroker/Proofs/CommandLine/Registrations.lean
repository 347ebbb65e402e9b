import TokenBroker.Proofs.CommandLine.Resolving
import TokenBroker.Proofs.Settings.Loaded
import TokenBroker.Proofs.Settings.Written

/-!
# Registrations in JSON

What the commands that list and show registrations write when JSON is asked for can be read again
without loss (`CommandLine.registrations_decoded`): the list as one object for each registration of
the settings, in the order of their ids, and a registration as an object of which everything but the
id is the entry of the settings. An id that the settings do not have ends the command with the
status of things not found, if the message can be shown that quotes it, and
`CommandLine.bracketed_id_not_reported` is a run in which it cannot.
-/

namespace TokenBroker

/-! ## Objects that are written -/

namespace Json

variable {cells : List (String × String)}

/-- An object of texts. -/
def ofTexts (cells : List (String × String)) : Json :=
  .obj (cells.map fun cell => (cell.1, .str cell.2))

/-- Cells of different columns make an object without repeated members. -/
theorem distinct_ofTexts (distinct : (cells.map (·.1)).Nodup) : (ofTexts cells).Distinct := by
  refine ⟨by rwa [List.map_map], ?_⟩
  clear distinct
  induction cells with
  | nil => trivial
  | cons cell cells ih => exact ⟨trivial, ih⟩

theorem isWritable_ofTexts (cells : List (String × String)) :
    (ofTexts cells).isWritable = true := by
  show membersWritable _ = true
  induction cells with
  | nil => rfl
  | cons cell cells ih => exact ih

theorem isWritable_ofOption (s : Option String) : (ofOption s).isWritable = true := by
  cases s <;> rfl

theorem isWritable_ofStrings (ss : List String) : (ofStrings ss).isWritable = true := by
  show itemsWritable _ = true
  induction ss with
  | nil => rfl
  | cons s ss ih => exact ih

/-- A value on a line of its own is read back. -/
theorem read_line {j : Json} (distinct : j.Distinct) (writable : j.isWritable = true) :
    Json.read (Presentation.line (j.render .readable)) = .ok j :=
  read_render .readable distinct writable "\n" (by simp [isSpace])

end Json

namespace Presentation

variable {p : Presentation} {headers row : List String}

/-- A row under headers that differ is an object with its cells in their order. -/
theorem record_eq (distinct : ((headers.zip row).map (·.1)).Nodup) :
    record headers row = Json.ofTexts (headers.zip row) := by
  have from_front (front : List (String × Json)) (cells : List (String × String))
      (distinct : (front.map (·.1) ++ cells.map (·.1)).Nodup) :
      cells.foldl (fun ms cell => Table.put ms cell.1 (.str cell.2)) front =
        front ++ cells.map fun cell => (cell.1, .str cell.2) := by
    induction cells generalizing front with
    | nil => simp
    | cons cell cells ih =>
      have fresh : cell.1 ∉ front.map (·.1) := by
        intro member
        exact (List.nodup_append.1 distinct).2.2 cell.1 member cell.1 List.mem_cons_self rfl
      rw [List.foldl_cons, Table.put_eq_append (Table.get?_eq_none_iff.2 fresh), ih]
      · simp
      · simpa using distinct
  exact congrArg Json.obj (from_front [] (headers.zip row) (by simpa using distinct))

/-- A table in JSON is read back as an object for each row. -/
theorem read_table {rows : List (List String)} (json : p.format = .json)
    (distinct : ∀ row ∈ rows, ((headers.zip row).map (·.1)).Nodup) (title : String) :
    ∃ text, p.table headers rows title = .ok text ∧
      Json.read text = .ok (.arr (rows.map fun row => Json.ofTexts (headers.zip row))) := by
  have records : rows.map (record headers) = rows.map fun row => Json.ofTexts (headers.zip row) :=
    List.map_congr_left fun row member => record_eq (distinct row member)
  have written : p.table headers rows title =
      .ok (line ((Json.arr (rows.map fun row => Json.ofTexts (headers.zip row))).render
        .readable)) := by
    rw [← records]
    simp only [table, json]
  have both : Json.ItemsDistinct (rows.map fun row => Json.ofTexts (headers.zip row)) ∧
      Json.itemsWritable (rows.map fun row => Json.ofTexts (headers.zip row)) = true := by
    clear records written
    induction rows with
    | nil => exact ⟨trivial, rfl⟩
    | cons row rows ih =>
      obtain ⟨others, writable⟩ := ih fun row member => distinct row (List.mem_cons_of_mem _ member)
      refine ⟨⟨Json.distinct_ofTexts (distinct row List.mem_cons_self), others⟩, ?_⟩
      rw [List.map_cons, Json.itemsWritable, Json.isWritable_ofTexts, writable]
      rfl
  exact ⟨_, written, Json.read_line both.1 both.2⟩

/-- The answer in JSON reads back as the value it was made from. -/
theorem read_response {j : Json} (json : p.format = .json) (distinct : j.Distinct)
    (writable : j.isWritable = true) :
    Json.read (p.response j) = .ok j := by
  have written : p.response j = line (j.render .readable) := by
    simp only [response, json]
  rw [written]
  exact Json.read_line distinct writable

end Presentation

/-! ## Registrations -/

namespace RegistrationEntry

/-- The five columns of a registration. -/
def columns (id : String) (entry : RegistrationEntry) : List (String × String) :=
  [("registration_id", id), ("grant_type", entry.grantType.name), ("client_id", entry.clientId),
    ("token_uri", entry.tokenUri), ("scopes", " ".intercalate entry.scopes)]

/-- The columns of a registration have different names. -/
theorem nodup_columns (id : String) (entry : RegistrationEntry) :
    ((entry.columns id).map (·.1)).Nodup := by
  simp [columns]

/-- What is shown of a registration: its id and all that its entry says. -/
def shown (id : String) (entry : RegistrationEntry) : List (String × Json) :=
  ("registration_id", .str id) :: entry.toMembers

theorem distinct_shown (id : String) (entry : RegistrationEntry) :
    (Json.obj (entry.shown id)).Distinct := by
  obtain ⟨names, values⟩ := entry.distinct_toJson
  refine ⟨?_, trivial, values⟩
  rw [shown, List.map_cons, List.nodup_cons]
  exact ⟨by simp [toMembers], names⟩

theorem isWritable_shown (id : String) (entry : RegistrationEntry) :
    (Json.obj (entry.shown id)).isWritable = true := by
  simp [shown, toMembers, Json.isWritable, Json.membersWritable, Json.isWritable_ofOption,
    Json.isWritable_ofStrings]

/-- What is shown of a registration is its entry, next to its identifier. -/
theorem filter_shown (id : String) (entry : RegistrationEntry) :
    (entry.shown id).filter (·.1 ≠ "registration_id") = entry.toMembers := by
  simp [shown, toMembers]

end RegistrationEntry

/-! ## The order of the list -/

namespace Work

variable {s : Settings}

/-- The list shows every registration once. -/
theorem sorted_perm (s : Settings) : (sorted s).Perm s.registrations := List.mergeSort_perm ..

/-- Registrations with different ids are listed in the order of their ids. -/
theorem sorted_ascending (nodup : (s.registrations.map (·.1)).Nodup) :
    (sorted s).Pairwise fun a b => a.1 < b.1 := by
  have ordered : (sorted s).Pairwise fun a b => a.1 ≤ b.1 := by
    refine (List.pairwise_mergeSort ?_ ?_ s.registrations).imp of_decide_eq_true
    · intro a b c hab hbc
      exact decide_eq_true (String.le_trans (of_decide_eq_true hab) (of_decide_eq_true hbc))
    · intro a b
      simpa using String.le_total a.1 b.1
  have different : ((sorted s).map (·.1)).Nodup := ((sorted_perm s).map (·.1)).nodup_iff.2 nodup
  refine (ordered.and (List.pairwise_map.1 different)).imp ?_
  rintro a b ⟨le, ne⟩
  exact Decidable.not_not.1 fun not_lt => ne (String.le_antisymm le (String.not_lt.1 not_lt))

/-! ## The commands -/

variable {given : Option String} {session : Session} {h : Host} {id : String}
  {entry : RegistrationEntry}

/-- Once the settings are loaded, the list is a table of all registrations. -/
theorem listRegistrations_of_active
    (active : activeSettings given session = (.ok s, { session with host := h }))
    (some : s.registrations ≠ []) {text : String}
    (shown : session.presentation.table registrationColumns
      ((sorted s).map fun x => registrationRow x.1 x.2) "Client registrations" = .ok text) :
    listRegistrations given session = (.ok (),
      { session with host := h, out := session.out ++ text }) := by
  unfold listRegistrations
  rw [bind_run, active]
  simp only [List.isEmpty_eq_false_iff.2 some]
  exact write_of_shown (s := { session with host := h }) shown

/-- Once the settings are loaded, a registration they declare is shown. -/
theorem showRegistration_of_declared
    (active : activeSettings given session = (.ok s, { session with host := h }))
    (found : Table.get? s.registrations id = some entry) :
    showRegistration given id session = (.ok (), { session with
      host := h
      out := session.out ++ session.presentation.response (.obj (entry.shown id)) }) := by
  unfold showRegistration
  rw [bind_run, active]
  simp only [found]
  rfl

/-- Once the settings are loaded, a registration they do not declare is a failure that names it. -/
theorem showRegistration_of_undeclared
    (active : activeSettings given session = (.ok s, { session with host := h }))
    (missing : Table.get? s.registrations id = none) :
    showRegistration given id session = failWith (.unknownRegistration id)
      { session with host := h } := by
  unfold showRegistration
  rw [bind_run, active]
  simp only [missing]

end Work

/-- A table without repeated keys finds each of its entries. -/
theorem Table.get?_eq_some_of_mem {κ α : Type} [DecidableEq κ] {t : Table κ α} {k : κ} {a : α}
    (distinct : (t.map (·.1)).Nodup) (member : (k, a) ∈ t) : t.get? k = some a := by
  induction t with
  | nil => cases member
  | cons e rest ih =>
    obtain ⟨k', a'⟩ := e
    rw [List.map_cons, List.nodup_cons] at distinct
    rw [Table.get?_cons]
    rcases List.mem_cons.1 member with same | later
    · cases same
      exact if_pos rfl
    · have other : k' ≠ k := by
        intro same
        exact distinct.1 (List.mem_map.2 ⟨(k, a), later, same.symm⟩)
      rw [if_neg other]
      exact ih distinct.2 later

/-- A failure to find a registration is told by its own status if its message can be shown. -/
theorem Ended.Reports.status_of_unknown {p : Presentation} {h h' : Host} {id : String} {e : Ended}
    (reports : e.Reports p h h' (.failure (.unknownRegistration id))) :
    e.status = ExitStatus.notFound.code ↔
      ∃ shown, p.error (Failure.unknownRegistration id).message = .ok shown := by
  have other : ExitStatus.generalFailure.code ≠ ExitStatus.notFound.code := by decide
  rw [reports.status]
  cases shown : p.error (Failure.unknownRegistration id).message with
  | ok line =>
    simp only [Fault.status, shown, Except.isOk, Except.toBool, if_true]
    exact ⟨fun _ => ⟨line, rfl⟩, fun _ => rfl⟩
  | error e =>
    simp only [Fault.status, shown, Except.isOk, Except.toBool, Bool.false_eq_true, if_false]
    constructor
    · intro same
      exact absurd same other
    · rintro ⟨line, shown⟩
      cases shown

namespace CommandLine

variable {words : List String} {i : Invocation} {h h₁ : Host} {s : Settings}

/-- Words that ask to show a registration in JSON, of which one argument is left. -/
theorem ofWords_show {w : Words} {id : String} (scanned : CommandOption.scan [] true words = .ok w)
    (only : w.arguments = [id]) :
    Wish.ofWords ("--json" :: "registrations" :: "show" :: words) =
      .ok (.run { preferences := { format := some .json }, command := .showRegistration id }) := by
  simp [Wish.ofWords, CommandOption.scan, CommandOption.ofWord, Wish.options, Words.has,
    Words.value?, Command.ofWords, Command.ofRegistrationWords, Command.onlyArgument,
    Wish.preferencesOf, bind, Except.bind, pure, Except.pure, scanned, only]

/-- Any id can be given behind two dashes. -/
theorem ofWords_show_behind_dashes (id : String) :
    Wish.ofWords ["--json", "registrations", "show", "--", id] =
      .ok (.run { preferences := { format := some .json }, command := .showRegistration id }) :=
  ofWords_show (w := { arguments := [id] }) rfl rfl

/-- An id that does not begin with a dash needs none. -/
theorem ofWords_show_plain {id : String} (plain : id.toList.head? ≠ some '-') :
    Wish.ofWords ["--json", "registrations", "show", id] =
      .ok (.run { preferences := { format := some .json }, command := .showRegistration id }) := by
  have other : id ≠ "--" := by
    rintro rfl
    exact plain rfl
  have argument : CommandOption.ofWord [] id = .ok none := by
    unfold CommandOption.ofWord
    split
    · next dashes => simp [dashes] at plain
    · rfl
    · next dash => simp [dash] at plain
    · rfl
  refine ofWords_show (w := { arguments := [id] }) ?_ rfl
  simp [CommandOption.scan, argument, bind, Except.bind, pure, Except.pure]

/-- The message about an unknown identifier is plain if the identifier is. -/
theorem isPlainText_unknownRegistration {id : String}
    (plain : Markup.isPlainText id.toList = true) :
    Markup.isPlainText (Failure.unknownRegistration id).message.toList = true := by
  have text : (Failure.unknownRegistration id).message.toList =
      "Client registration '".toList ++ (id.toList ++ "' not found".toList) := by
    have joined : (Failure.unknownRegistration id).message = "Client registration '" ++ id ++
        "' not found" := rfl
    rw [joined, String.toList_append, String.toList_append, List.append_assoc]
  unfold Markup.isPlainText at plain ⊢
  rw [text, List.all_append, List.all_append, plain]
  decide

/-- A session opens with the settings that its host loads. -/
theorem active_of_loaded
    (loaded : (do Action.loadSettings (← Action.settingsFile i.settings) : Action Settings) h =
      (.ok s, h₁)) :
    Work.activeSettings i.settings (opening h i) = (.ok s, { opening h i with host := h₁ }) :=
  Work.act_of_ok loaded

/-- A list of registrations ends well, with the table of them. -/
theorem ended_of_list (read : Wish.ofWords words = .ok (.run i))
    (loaded : (do Action.loadSettings (← Action.settingsFile i.settings) : Action Settings) h =
      (.ok s, h₁))
    (command : i.command = .listRegistrations) (some : s.registrations ≠ []) {text : String}
    (shown : (opening h i).presentation.table Work.registrationColumns
      ((Work.sorted s).map fun x => Work.registrationRow x.1 x.2) "Client registrations" =
        .ok text) :
    (run h words).2.status = ExitStatus.success.code ∧ (run h words).2.out = text := by
  rw [run_of_invocation read, command]
  simp only [Work.command]
  rw [Work.listRegistrations_of_active (active_of_loaded loaded) some shown]
  refine ⟨rfl, ?_⟩
  simp only [Work.concluded, Session.conclude, Session.ended, opening, String.empty_append]

/-- Showing a registration that the settings have ends well, with what their entry says. -/
theorem ended_of_show {id : String} {entry : RegistrationEntry}
    (read : Wish.ofWords words = .ok (.run i))
    (loaded : (do Action.loadSettings (← Action.settingsFile i.settings) : Action Settings) h =
    (.ok s, h₁)) (command : i.command = .showRegistration id)
    (found : Table.get? s.registrations id = some entry) :
    (run h words).2.status = ExitStatus.success.code ∧
      (run h words).2.out = (opening h i).presentation.response (.obj (entry.shown id)) := by
  rw [run_of_invocation read, command]
  simp only [Work.command]
  rw [Work.showRegistration_of_declared (active_of_loaded loaded) found]
  refine ⟨rfl, ?_⟩
  simp only [Work.concluded, Session.conclude, Session.ended, opening, String.empty_append]

/-- An id that the settings do not have is reported. -/
theorem reports_of_undeclared {id : String} (read : Wish.ofWords words = .ok (.run i))
    (loaded : (do Action.loadSettings (← Action.settingsFile i.settings) : Action Settings) h =
      (.ok s, h₁))
    (command : i.command = .showRegistration id) (undeclared : id ∉ s.registrations.map (·.1)) :
    (run h words).2.Reports (opening h i).presentation h₁ (run h words).1
      (.failure (.unknownRegistration id)) := by
  have missing : Table.get? s.registrations id = none :=
    Option.eq_none_iff_forall_ne_some.2 fun entry found =>
      undeclared (Table.mem_keys_iff.2 ⟨entry, found⟩)
  rw [run_of_invocation read, command]
  simp only [Work.command]
  rw [Work.showRegistration_of_undeclared (active_of_loaded loaded) missing]
  exact Work.reports_of_failing (s := { opening h i with host := h₁ }) rfl _

/-- What lists the registrations in JSON is read as an object for each of them. -/
theorem decoded_of_list (read : Wish.ofWords words = .ok (.run i))
    (format : (opening h i).presentation.format = .json)
    (loaded : (do Action.loadSettings (← Action.settingsFile i.settings) : Action Settings) h =
      (.ok s, h₁))
    (command : i.command = .listRegistrations) (some : s.registrations ≠ []) :
    (run h words).2.status = ExitStatus.success.code ∧
      Json.read (run h words).2.out =
        .ok (.arr ((Work.sorted s).map fun x => Json.ofTexts (x.2.columns x.1))) := by
  have distinct : ∀ row ∈ (Work.sorted s).map (fun x => Work.registrationRow x.1 x.2),
      ((Work.registrationColumns.zip row).map (·.1)).Nodup := by
    intro row member
    obtain ⟨x, -, rfl⟩ := List.mem_map.1 member
    exact x.2.nodup_columns x.1
  obtain ⟨text, shown, decoded⟩ := Presentation.read_table format distinct "Client registrations"
  obtain ⟨status, out⟩ := ended_of_list read loaded command some shown
  rw [List.map_map] at decoded
  rw [out]
  exact ⟨status, decoded⟩

/-- What shows a registration in JSON is read as its members, from which its entry is read. -/
theorem decoded_of_show {id : String} {entry : RegistrationEntry}
    (read : Wish.ofWords words = .ok (.run i))
    (format : (opening h i).presentation.format = .json)
    (loaded : (do Action.loadSettings (← Action.settingsFile i.settings) : Action Settings) h =
      (.ok s, h₁))
    (command : i.command = .showRegistration id)
    (declared : Table.get? s.registrations id = some entry) :
    (run h words).2.status = ExitStatus.success.code ∧
      Json.read (run h words).2.out = .ok (.obj (entry.shown id)) ∧
      RegistrationEntry.ofJson (.obj ((entry.shown id).filter (·.1 ≠ "registration_id"))) =
        .ok entry := by
  obtain ⟨status, out⟩ := ended_of_show read loaded command declared
  refine ⟨status, ?_, ?_⟩
  · rw [out]
    exact Presentation.read_response format (entry.distinct_shown id) (entry.isWritable_shown id)
  · rw [entry.filter_shown id]
    exact entry.ofJson_toJson

/-- **Registrations in JSON lose nothing.** Let an invocation ask for JSON on any host where the
settings in force can be loaded. Then

* if it lists the registrations and there are some, it succeeds, and what it writes is read as an
  array with an object for each of them, in ascending order of their ids, of their five columns;
* if it shows a registration that the settings have, it succeeds, and what it writes is read as an
  object with the id under `registration_id`, whose other members are read as the entry of the
  settings;
* if it shows one that they do not have, nothing is written to standard output, and the failure is
  reported. The exit status is the one of things not found exactly if the message can be shown,
  which it can without colour and for any id of plain text. -/
theorem registrations_decoded (read : Wish.ofWords words = .ok (.run i))
    (json : i.preferences.format = some .json)
    (loaded : (do Action.loadSettings (← Action.settingsFile i.settings) : Action Settings) h =
    (.ok s, h₁)) :
    let p := Presentation.settle i.preferences h.environment h.screen
    let ran := run h words
    (i.command = .listRegistrations → s.registrations ≠ [] →
        ran.2.status = ExitStatus.success.code ∧ ∃ listed : List (String × RegistrationEntry),
          listed.Perm s.registrations ∧ listed.Pairwise (fun a b => a.1 < b.1) ∧
            Json.read ran.2.out = .ok (.arr (listed.map fun x => Json.ofTexts (x.2.columns x.1)))) ∧
      (∀ id entry, i.command = .showRegistration id → (id, entry) ∈ s.registrations →
        ran.2.status = ExitStatus.success.code ∧ ∃ ms, Json.read ran.2.out = .ok (.obj ms) ∧
          Json.lookup? "registration_id" ms = some (.str id) ∧
            RegistrationEntry.ofJson (.obj (ms.filter (·.1 ≠ "registration_id"))) = .ok entry) ∧
      ∀ id, i.command = .showRegistration id → id ∉ s.registrations.map (·.1) →
        ran.2.out = "" ∧ ran.2.Reports p h₁ ran.1 (.failure (.unknownRegistration id)) ∧
          (ran.2.status = ExitStatus.notFound.code ↔
            ∃ shown, p.error (Failure.unknownRegistration id).message = .ok shown) ∧
          (p.color = false ∨ Markup.isPlainText id.toList = true →
            ran.2.status = ExitStatus.notFound.code) := by
  intro p ran
  have format : p.format = .json := by
    simp only [p, Presentation.settle, json, Option.getD_some]
  have nodup : (s.registrations.map (·.1)).Nodup := by
    obtain ⟨path, _, -, loaded⟩ := Action.exists_of_bind loaded
    exact Action.nodup_of_loadSettings loaded
  refine ⟨?_, ?_, ?_⟩
  · intro command some
    obtain ⟨status, decoded⟩ := decoded_of_list read format loaded command some
    exact ⟨status, Work.sorted s, Work.sorted_perm s, Work.sorted_ascending nodup, decoded⟩
  · intro id entry command declared
    obtain ⟨status, decoded, kept⟩ :=
      decoded_of_show read format loaded command (Table.get?_eq_some_of_mem nodup declared)
    exact ⟨status, entry.shown id, decoded, rfl, kept⟩
  · intro id command undeclared
    have reports : ran.2.Reports p h₁ ran.1 (.failure (.unknownRegistration id)) :=
      reports_of_undeclared read loaded command undeclared
    have status_iff := reports.status_of_unknown
    refine ⟨reports.out, reports, status_iff, ?_⟩
    rintro (colorless | plain)
    · exact status_iff.2 (Presentation.exists_of_colorless colorless _).1
    · exact status_iff.2 (p.exists_error (isPlainText_unknownRegistration plain))

/-! ## Runs -/

namespace TwoRegistrations

def settings : String :=
  "\x7b\"registrations\": \x7b\"svc\": \x7b\"client_id\": \"app\", \"token_uri\": \"/token\", " ++
    "\"scopes\": [\"read\", \"übersicht\"]\x7d, " ++
    "\"-a\": \x7b\"client_id\": \"b\", \"token_uri\": \"/t\"\x7d\x7d\x7d"

/-- A host with two registrations, on which nothing refuses colour. -/
def host : Host where
  tree :=
    { nodes := [(["work"], .directory []),
        (["work", projectFileName], .file (Utf8.encode settings) 0o600)] }
  here := ["work"]
  environment := [("HOME", "/home")]
  world := { clock := default, transport := fun _ => { reply := .interrupted },
             shared := { store := .disk [] } }

def listing : Invocation :=
  { preferences := { format := some .json }, command := .listRegistrations }

theorem exists_loaded : ∃ s h₁,
    (do Action.loadSettings (← Action.settingsFile none) : Action Settings) host = (.ok s, h₁) ∧
      s.registrations.map (·.1) = ["svc", "-a"] := by
  have ids : ((do Action.loadSettings (← Action.settingsFile none) : Action Settings)
      host).1.toOption.map
      (fun s => s.registrations.map (·.1)) = some ["svc", "-a"] := by decide +kernel
  rcases ran : (do Action.loadSettings (← Action.settingsFile none) : Action Settings)
    host with ⟨fault | s, h₁⟩
  · rw [ran] at ids
    cases ids
  · rw [ran] at ids
    exact ⟨s, h₁, rfl, Option.some.inj ids⟩

end TwoRegistrations

open TwoRegistrations in
/-- The list is in the order of the ids, and a registration whose id looks like an option is shown
behind dashes. -/
theorem two_registrations_decoded :
    ∃ s h₁, Wish.ofWords ["--json", "registrations", "list"] = .ok (.run listing) ∧
      listing.preferences.format = some .json ∧
      (do Action.loadSettings (← Action.settingsFile none) : Action Settings) host = (.ok s, h₁) ∧
      (∃ listed : List (String × RegistrationEntry), listed.map (·.1) = ["-a", "svc"] ∧
        Json.read (run host ["--json", "registrations", "list"]).2.out =
          .ok (.arr (listed.map fun x => Json.ofTexts (x.2.columns x.1)))) ∧
      ∃ entry ms, ("-a", entry) ∈ s.registrations ∧
        Json.read (run host ["--json", "registrations", "show", "--", "-a"]).2.out = .ok (.obj ms) ∧
          RegistrationEntry.ofJson (.obj (ms.filter (·.1 ≠ "registration_id"))) = .ok entry := by
  obtain ⟨s, h₁, loaded, ids⟩ := exists_loaded
  have read : Wish.ofWords ["--json", "registrations", "list"] = .ok (.run listing) := by
    decide +kernel
  refine ⟨s, h₁, read, rfl, loaded, ?_, ?_⟩
  · obtain ⟨lists, -, -⟩ := registrations_decoded read rfl loaded
    have some : s.registrations ≠ [] := by
      intro none
      rw [none] at ids
      cases ids
    obtain ⟨-, listed, perm, ascending, decoded⟩ := lists rfl some
    have names : (listed.map (·.1)).Perm ["-a", "svc"] := by
      have same := perm.map (·.1)
      rw [ids] at same
      exact same.trans (List.Perm.swap _ _ _)
    have order : listed.map (·.1) = ["-a", "svc"] := by
      refine names.eq_of_pairwise ?_ (List.pairwise_map.2 ascending) (by decide)
      intro a b _ _ before after
      exact absurd (String.lt_trans before after) (String.lt_irrefl a)
    exact ⟨listed, order, decoded⟩
  · have declared : "-a" ∈ s.registrations.map (·.1) := by
      rw [ids]
      decide
    obtain ⟨⟨_, entry⟩, member, rfl⟩ := List.mem_map.1 declared
    obtain ⟨-, shows, -⟩ := registrations_decoded (ofWords_show_behind_dashes "-a") rfl loaded
    obtain ⟨-, ms, decoded, -, same⟩ := shows "-a" entry rfl member
    exact ⟨entry, ms, member, decoded, same⟩

open TwoRegistrations in
/-- There is no registration of this id, and the command ends as if something unexpected had
happened. -/
theorem bracketed_id_not_reported :
    ∃ s h₁, (do Action.loadSettings (← Action.settingsFile none) : Action Settings) host =
      (.ok s, h₁) ∧
      "[/x]" ∉ s.registrations.map (·.1) ∧
      (run host ["--json", "registrations", "show", "[/x]"]).2.status =
        ExitStatus.generalFailure.code ∧
      ExitStatus.generalFailure.code ≠ ExitStatus.notFound.code := by
  obtain ⟨s, h₁, loaded, ids⟩ := exists_loaded
  have undeclared : "[/x]" ∉ s.registrations.map (·.1) := by
    rw [ids]
    decide
  have unescaped : "[/x]".toList.head? ≠ some '-' := by decide
  have read := ofWords_show_plain unescaped
  have reports := reports_of_undeclared read loaded rfl undeclared
  have quoted : (Failure.unknownRegistration "[/x]").message.toList =
      "Client registration '".toList ++ (Markup.closing ['x'] ++ "' not found".toList) := by decide
  have colored : (opening host
      { preferences := { format := some .json },
        command := .showRegistration "[/x]" }).presentation.color = true := rfl
  obtain ⟨e, unshown⟩ := Presentation.error_of_closing colored (by decide) (by simp)
    (by simp) quoted
  refine ⟨s, h₁, loaded, undeclared, ?_, by decide⟩
  rw [reports.status]
  simp only [Fault.status, unshown, Except.isOk, Except.toBool, Bool.false_eq_true, if_false]

end CommandLine

end TokenBroker
