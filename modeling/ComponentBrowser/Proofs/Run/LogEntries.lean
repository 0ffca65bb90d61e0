import ComponentBrowser.Proofs.Log.Entry
import ComponentBrowser.Run
import Mathlib.Control.Monad.Basic

/-!
# ComponentBrowser.Proofs.Run.LogEntries

What a run writes to the log, one line for an event.  Paths, indices, names of
files, unknown commands and the causes of errors are quoted wherever they are
logged, and contents of files are not logged at all.  So an event shows nothing
of what the operator supplies but visible characters, with one exception: the
event that a prompt begins with names its topic as it was asked for.

* `Error.allVisible_inspect` — errors as the log shows them;
* `Command.plain_or_announced` — the events of a command, one case for each;
* `Run.log_command` — the log in terms of what is reported;
* `run_log_entries` — the log of a run has one line for each event, exactly
  unless it tells of a topic that holds a line break.
-/

namespace ComponentBrowser

open Text (AllVisible allVisible_append allVisible_enclosed allVisible_ofList allVisible_quoted)

/-! ## values -/

theorem Decimal.isVisible_of_isDigit {c : Char} (h : isDigit c = true) :
    Text.isVisible c = true := by
  rw [isDigit, Bool.and_eq_true, decide_eq_true_eq, decide_eq_true_eq] at h
  rw [Text.isVisible, if_pos (by omega), decide_eq_true_eq]
  omega

theorem Decimal.allVisible_render (n : Nat) : AllVisible (render n) := by
  intro c hc
  rw [render, String.toList_ofList] at hc
  exact isVisible_of_isDigit (isDigit_of_mem_digits n c hc)

theorem Decimal.allVisible_renderInt (n : Int) : AllVisible (renderInt n) := by
  rw [renderInt]
  split
  · exact allVisible_append.mpr ⟨by decide, allVisible_render _⟩
  · exact allVisible_render _

theorem Path.allVisible_quoted (p : Path) : AllVisible p.quoted := Text.allVisible_quotedBytes _

theorem Listing.allVisible_inspectOption {α : Type} {render : α → String}
    (h : ∀ a, AllVisible (render a)) (x : Option α) :
    AllVisible (inspectOption (x.map render)) := by
  cases x with
  | none => exact allVisible_ofList (by decide)
  | some a => exact allVisible_enclosed (by decide) (h a) (by decide)

theorem ReadError.allVisible_inspect (e : ReadError) : AllVisible e.inspect := by
  cases e with
  | other description =>
      exact allVisible_enclosed (allVisible_ofList (by decide)) (allVisible_quoted _) (by decide)
  | notFound | isDirectory | denied => exact allVisible_ofList (by decide)

/-- An error shows in the log what it is about, quoted. -/
theorem Error.allVisible_inspect (e : Error) : AllVisible e.inspect := by
  cases e with
  | invalidIndex index =>
      exact allVisible_enclosed (by decide) (Decimal.allVisible_renderInt index) (by decide)
  | componentNotFound text | malformedIndex text | unrecognizedCommand text
  | serialization text =>
      exact allVisible_enclosed (allVisible_ofList (by decide)) (allVisible_quoted text) (by decide)
  | settings fault =>
      exact allVisible_enclosed (by decide) (allVisible_quoted fault.message) (by decide)
  | io cause => exact allVisible_enclosed (by decide) cause.allVisible_inspect (by decide)

/-! ## events of a command -/

open Log (Event Report)

theorem Listing.plain_probed (workspace : Path) (l : Listing) : (probed workspace l).Plain := by
  have hsize : AllVisible (inspectOption (l.size?.map Decimal.render)) :=
    allVisible_inspectOption Decimal.allVisible_render l.size?
  have htarget : AllVisible "analyze_catalog::lister" := allVisible_ofList (by decide)
  have hmessage : AllVisible "Probed component" := allVisible_ofList (by decide)
  refine ⟨⟨htarget, ?_⟩, hmessage⟩
  simp only [probed, List.forall_mem_cons]
  exact ⟨⟨by decide, Decimal.allVisible_render _⟩, ⟨by decide, Path.allVisible_quoted _⟩,
    ⟨by decide, hsize⟩, nofun⟩

theorem Preview.plain_of_mem_reported (workspace : Path) (result : Except Error Preview) :
    ∀ e ∈ reported workspace result, e.Plain := by
  have htarget : AllVisible "analyze_catalog::viewer" := allVisible_ofList (by decide)
  intro e he
  unfold reported at he
  split at he
  · next p =>
      obtain rfl := List.mem_singleton.mp he
      have hmessage : AllVisible "Loaded component preview" := allVisible_ofList (by decide)
      have htruncated : AllVisible (if p.truncated then "true" else "false") := by
        split <;> decide
      refine ⟨⟨htarget, ?_⟩, hmessage⟩
      simp only [List.forall_mem_cons]
      exact ⟨⟨by decide, allVisible_quoted _⟩, ⟨by decide, Decimal.allVisible_render _⟩,
        ⟨by decide, htruncated⟩, nofun⟩
  · obtain rfl := List.mem_singleton.mp he
    have hmessage : AllVisible "Component file missing" := allVisible_ofList (by decide)
    refine ⟨⟨htarget, ?_⟩, hmessage⟩
    simp only [List.forall_mem_cons]
    exact ⟨⟨by decide, Path.allVisible_quoted _⟩, nofun⟩
  · exact absurd he List.not_mem_nil

theorem Prompt.plain_of_mem_reported (p : Prompt) : ∀ e ∈ p.reported, e.Plain := by
  have htarget : AllVisible "analyze_prompt::retriever" := allVisible_ofList (by decide)
  have hmessage : AllVisible "No prompt registered, using generic prompt" := allVisible_ofList (by decide)
  have htopics : AllVisible (", ".intercalate (topics.map Text.quoted)) := by
    refine Text.allVisible_intercalate (by decide) fun t ht => ?_
    obtain ⟨topic, -, rfl⟩ := List.mem_map.mp ht
    exact allVisible_quoted topic
  intro e he
  unfold reported at he
  split at he
  · obtain rfl := List.mem_singleton.mp he
    refine ⟨⟨htarget, ?_⟩, hmessage⟩
    simp only [List.forall_mem_cons]
    exact ⟨⟨by decide, allVisible_quoted _⟩,
      ⟨by decide, allVisible_enclosed (by decide) htopics (by decide)⟩, nofun⟩
  · exact absurd he List.not_mem_nil

namespace Command

theorem plain_of_mem_listEvents (fs : FileSystem) (workspace : Path) :
    ∀ e ∈ listEvents fs workspace, e.Plain := by
  have htarget : AllVisible "analyze_components::commands::list" := allVisible_ofList (by decide)
  have hstart : AllVisible "Executing list command" := allVisible_ofList (by decide)
  have hworkspace : AllVisible ("Workspace: " ++ workspace.quoted) :=
    allVisible_append.mpr ⟨by decide, Path.allVisible_quoted workspace⟩
  have hpresent : AllVisible "Components on disk" := allVisible_ofList (by decide)
  simp only [listEvents, List.forall_mem_append, List.forall_mem_cons, List.forall_mem_map]
  refine ⟨⟨⟨.of_noFields htarget hstart, .of_noFields htarget hworkspace, nofun⟩, ?probed⟩,
    ⟨⟨htarget, ?counts⟩, hpresent⟩, nofun⟩
  case probed => exact fun l _ => Listing.plain_probed workspace l
  case counts =>
    simp only [List.forall_mem_cons]
    exact ⟨⟨by decide, Decimal.allVisible_render _⟩, ⟨by decide, Decimal.allVisible_render _⟩,
      nofun⟩

theorem plain_of_mem_previewEvents (fs : FileSystem) (s : Settings) (index : String) :
    ∀ e ∈ previewEvents fs s index, e.Plain := by
  have htarget : AllVisible "analyze_components::commands::show" := allVisible_ofList (by decide)
  have hstart : AllVisible ("Executing show command for index " ++ Text.quoted index) :=
    allVisible_append.mpr ⟨allVisible_ofList (by decide), allVisible_quoted index⟩
  rw [previewEvents, List.forall_mem_cons]
  exact ⟨.of_noFields htarget hstart, Preview.plain_of_mem_reported _ _⟩

/-- The event that a prompt begins with. -/
def announced (topic : String) : Event where
  level := .info
  target := "analyze_components::commands::prompt"
  message := "Executing prompt command for topic '" ++ topic ++ "'"

theorem framed_announced (topic : String) : (announced topic).Framed := by
  have htarget : AllVisible "analyze_components::commands::prompt" := allVisible_ofList (by decide)
  exact ⟨htarget, nofun⟩

/-- The message breaks where the topic does. -/
theorem newline_mem_message_announced_iff (topic : String) :
    '\n' ∈ (announced topic).message.toList ↔ '\n' ∈ topic.toList := by
  simp [announced]

/-- Every event of a command is plain, but for the one that a prompt begins with. -/
theorem plain_or_announced (fs : FileSystem) (s : Settings) (c : Command) :
    ∀ e ∈ c.events fs s, e.Plain ∨ ∃ topic, c = .prompt topic ∧ e = announced topic := by
  intro e he
  cases c with
  | usage => exact absurd he List.not_mem_nil
  | list => exact .inl (plain_of_mem_listEvents fs s.workspace e he)
  | preview index => exact .inl (plain_of_mem_previewEvents fs s index e he)
  | prompt topic =>
      rcases List.mem_cons.mp he with rfl | he
      · exact .inr ⟨topic, rfl, rfl⟩
      · exact .inl (Prompt.plain_of_mem_reported _ e he)
  | unknown token => exact absurd he List.not_mem_nil

end Command

/-! ## events of a run -/

namespace Run

theorem plain_of_mem_openingEvents (s : Settings) : ∀ e ∈ openingEvents s, e.Plain := by
  have htarget : AllVisible "analyze_components" := allVisible_ofList (by decide)
  have hworkspace : AllVisible ("Workspace: " ++ s.workspace.quoted) :=
    allVisible_append.mpr ⟨by decide, Path.allVisible_quoted s.workspace⟩
  have hfile : AllVisible
      ("Config file: " ++ Listing.inspectOption (s.configFile?.map Path.quoted)) :=
    allVisible_append.mpr
      ⟨by decide, Listing.allVisible_inspectOption Path.allVisible_quoted s.configFile?⟩
  simp only [openingEvents, List.forall_mem_cons]
  exact ⟨.of_noFields htarget hworkspace, .of_noFields htarget hfile, nofun⟩

theorem plain_closingEvent (result : Except Error String) : (closingEvent result).Plain := by
  have htarget : AllVisible "analyze_components" := allVisible_ofList (by decide)
  cases result with
  | ok text =>
      have hmessage : AllVisible "Command completed successfully" :=
        allVisible_ofList (by decide)
      exact .of_noFields htarget hmessage
  | error e =>
      have hmessage : AllVisible
          (if e.isUserFacing then "Command rejected" else "Command failed") := by
        split <;> decide
      refine ⟨⟨htarget, ?_⟩, hmessage⟩
      simp only [closingEvent, List.forall_mem_cons]
      exact ⟨⟨by decide, e.allVisible_inspect⟩, nofun⟩

/-- What a run reports, in order: the events before the command, and those of
the command in its span. -/
def reports (fs : FileSystem) (s : Settings) (json : Bool) (c : Command) : List Report :=
  (openingEvents s).map (Report.mk none) ++
    (c.events fs s ++ [closingEvent (c.answer fs s json)]).map (Report.mk (some (span c)))

/-- The report of the event that a prompt begins with. -/
def announcement (topic : String) : Report where
  span? := some (span (.prompt topic))
  event := Command.announced topic

/-- The log of a command is an entry for each report that the filter lets through. -/
theorem log_command (fs : FileSystem) (s : Settings) (filter : Log.Filter) (json : Bool)
    (c : Command) :
    (command fs s filter json c).log =
      ((reports fs s json c).filter filter.passes).map filter.entry := by
  rw [reports, List.filter_append, List.map_append, ← Log.Filter.lines_eq, ← Log.Filter.lines_eq]
  rfl

theorem run_of_prepare_eq_ok {fs : FileSystem} {v : Variables} {words : List Bytes}
    {request : CommandLine.Request} {s : Settings} {filter : Log.Filter}
    (hread : CommandLine.read v words = .ok request)
    (hprepare : prepare fs v request.overrides = .ok (s, filter)) :
    run fs v words =
      command fs s filter request.json (Command.ofArguments request.arguments) := by
  simp only [run, hread, hprepare]

theorem allVisible_header_span (c : Command) : AllVisible (span c).header := by
  have hname : AllVisible "command" := allVisible_ofList (by decide)
  refine Log.Span.allVisible_header hname ?_
  simp only [span, List.forall_mem_cons]
  exact ⟨by decide, nofun⟩

variable {fs : FileSystem} {s : Settings} {json : Bool} {c : Command} {r : Report}

theorem allVisible_header_of_mem_reports (hr : r ∈ reports fs s json c) (filter : Log.Filter) :
    ∀ sp ∈ r.span?.filter filter.opens, AllVisible sp.header := by
  refine Log.Filter.allVisible_header_of_mem_filter filter ?_
  rcases List.mem_append.mp hr with hopening | hcommand
  · obtain ⟨e, -, rfl⟩ := List.mem_map.mp hopening
    exact nofun
  · obtain ⟨e, -, rfl⟩ := List.mem_map.mp hcommand
    rintro sp ⟨⟩
    exact allVisible_header_span c

theorem plain_or_announcement (hr : r ∈ reports fs s json c) :
    r.event.Plain ∨ ∃ topic, c = .prompt topic ∧ r = announcement topic := by
  rcases List.mem_append.mp hr with hopening | hcommand
  · obtain ⟨e, he, rfl⟩ := List.mem_map.mp hopening
    exact .inl (plain_of_mem_openingEvents s e he)
  · obtain ⟨e, he, rfl⟩ := List.mem_map.mp hcommand
    rcases List.mem_append.mp he with he | he
    · rcases Command.plain_or_announced fs s c e he with hplain | ⟨topic, rfl, rfl⟩
      · exact .inl hplain
      · exact .inr ⟨topic, rfl, rfl⟩
    · obtain rfl := List.mem_singleton.mp he
      exact .inl (plain_closingEvent _)

/-- An entry is visible, or it is the one that names the topic of a prompt. -/
theorem allVisible_entry_or_announcement (hr : r ∈ reports fs s json c) (filter : Log.Filter) :
    AllVisible (filter.entry r) ∨ ∃ topic, c = .prompt topic ∧ r = announcement topic :=
  (plain_or_announcement hr).imp_left fun hplain =>
    hplain.allVisible_line (allVisible_header_of_mem_reports hr filter)

theorem newline_mem_entry_announcement_iff (filter : Log.Filter) (topic : String) :
    '\n' ∈ (filter.entry (announcement topic)).toList ↔ '\n' ∈ topic.toList := by
  have hspan : ∀ sp ∈ some (span (.prompt topic)), AllVisible sp.header := by
    rintro sp ⟨⟩
    exact allVisible_header_span _
  rw [Log.Filter.entry, announcement, (Command.framed_announced topic).newline_mem_line_iff
    (Log.Filter.allVisible_header_of_mem_filter filter hspan)]
  exact Command.newline_mem_message_announced_iff topic

/-- An entry breaks exactly where it names a topic that does. -/
theorem newline_mem_entry_iff (hr : r ∈ reports fs s json c) (filter : Log.Filter) :
    '\n' ∈ (filter.entry r).toList ↔
      ∃ topic, c = .prompt topic ∧ r = announcement topic ∧ '\n' ∈ topic.toList := by
  constructor
  · intro hbreak
    rcases allVisible_entry_or_announcement hr filter with hvisible | ⟨topic, hc, rfl⟩
    · exact absurd hbreak hvisible.newline_not_mem
    · exact ⟨topic, hc, rfl, (newline_mem_entry_announcement_iff filter topic).mp hbreak⟩
  · rintro ⟨topic, -, rfl, hbreak⟩
    exact (newline_mem_entry_announcement_iff filter topic).mpr hbreak

end Run

open Run

/-- **One line for an event, unless a topic breaks it.**  A run that starts logs
an entry for each event that its filter lets through.  All characters of the
entry are visible, so it is one line, whatever paths, indices, commands and files
hold; save that the entry that a prompt begins with has the line breaks of the
topic.  So the written log has as many lines as entries exactly if there is no
such entry of a topic with a line break. -/
theorem run_log_entries {fs : FileSystem} {v : Variables} {words : List Bytes}
    {request : CommandLine.Request} {s : Settings} {filter : Log.Filter}
    (hread : CommandLine.read v words = .ok request)
    (hprepare : prepare fs v request.overrides = .ok (s, filter)) :
    let c := Command.ofArguments request.arguments
    let logged := (reports fs s request.json c).filter filter.passes
    (run fs v words).log = logged.map filter.entry ∧
    (∀ r ∈ logged, AllVisible (filter.entry r) ∨
      ∃ topic, c = .prompt topic ∧ r = announcement topic) ∧
    (∀ r ∈ logged, '\n' ∈ (filter.entry r).toList ↔
      ∃ topic, c = .prompt topic ∧ r = announcement topic ∧ '\n' ∈ topic.toList) ∧
    ((Log.written (run fs v words).log).toList.count '\n' = logged.length ↔
      ∀ topic, c = .prompt topic → announcement topic ∈ logged → '\n' ∉ topic.toList) := by
  intro c logged
  have hlog : (run fs v words).log = logged.map filter.entry := by
    rw [run_of_prepare_eq_ok hread hprepare, log_command]
  have hreports : ∀ r ∈ logged, r ∈ reports fs s request.json c :=
    fun r hr => (List.mem_filter.mp hr).1
  refine ⟨hlog, fun r hr => allVisible_entry_or_announcement (hreports r hr) filter,
    fun r hr => newline_mem_entry_iff (hreports r hr) filter, ?_⟩
  have hcount := Log.count_newline_written_eq_iff (logged.map filter.entry)
  rw [List.length_map, List.forall_mem_map] at hcount
  rw [hlog, hcount]
  constructor
  · intro hlines topic hc hmem hbreak
    exact hlines _ hmem ((newline_mem_entry_announcement_iff filter topic).mpr hbreak)
  · intro htopics r hr hbreak
    obtain ⟨topic, hc, rfl, htopic⟩ := (newline_mem_entry_iff (hreports r hr) filter).mp hbreak
    exact htopics topic hc hr htopic

/-- A file system with the root directory and nothing in it. -/
def bareRoot : FileSystem where
  currentDirectory := Path.ofText "/"
  entry? p := if p = Path.ofText "/" then some (.directory 0) else none

/-- An index with a line break in it is logged on one line, as all else is that
such a run logs. -/
theorem run_log_entries_show :
    let words := ["--log-level", "trace", "show", "1\n2"].map Bytes.ofText
    (∃ request s filter, CommandLine.read {} words = .ok request ∧
      prepare bareRoot {} request.overrides = .ok (s, filter)) ∧
    (run bareRoot {} words).log.length = 4 ∧
    (Log.written (run bareRoot {} words).log).toList.count '\n' = 4 := by
  intro words
  let request : CommandLine.Request := ⟨{ logLevel? := some "trace" }, false, ["show", "1\n2"]⟩
  let s : Settings := ⟨Path.ofText "/", none, some "trace", false, false, 5000⟩
  let filter : Log.Filter := ⟨[⟨none, none, [], .upTo .trace⟩]⟩
  have hread : CommandLine.read {} words = .ok request := by decide +kernel
  have hprepare : prepare bareRoot {} request.overrides = .ok (s, filter) := by decide +kernel
  obtain ⟨hlog, -, -, hcount⟩ := run_log_entries hread hprepare
  have hlength : (run bareRoot {} words).log.length = 4 := by decide +kernel
  refine ⟨⟨request, s, filter, hread, hprepare⟩, hlength, ?_⟩
  -- no topic is asked for, so the log has as many lines as events
  have hlines := hcount.mpr fun topic h => nomatch h
  rwa [← List.length_map filter.entry, ← hlog, hlength] at hlines

/-- The event that names a topic with a line break in it takes two lines, so the
log of such a run has more lines than events. -/
theorem run_log_entries_broken :
    let words := ["--log-level", "info", "prompt", "a\nb"].map Bytes.ofText
    (run bareRoot {} words).log =
      ["INFO command\x7bname=\"prompt\"\x7d: analyze_components::commands::prompt: " ++
          "Executing prompt command for topic 'a\nb'",
        "INFO command\x7bname=\"prompt\"\x7d: analyze_components: " ++
          "Command completed successfully"] ∧
    (Log.written (run bareRoot {} words).log).toList.count '\n' ≠
      (run bareRoot {} words).log.length := by
  intro words
  have hlog : (run bareRoot {} words).log =
      ["INFO command\x7bname=\"prompt\"\x7d: analyze_components::commands::prompt: " ++
          "Executing prompt command for topic 'a\nb'",
        "INFO command\x7bname=\"prompt\"\x7d: analyze_components: " ++
          "Command completed successfully"] := by decide +kernel
  have hbreak : '\n' ∈ "Executing prompt command for topic 'a\nb'".toList := by decide
  refine ⟨hlog, fun hcount => ?_⟩
  rw [hlog] at hcount
  have hlines := (Log.count_newline_written_eq_iff _).mp hcount _ List.mem_cons_self
  rw [String.toList_append] at hlines
  exact hlines (List.mem_append_right _ hbreak)

end ComponentBrowser
