import ComponentBrowser.Proofs.Catalog.Agreement
import ComponentBrowser.Proofs.Catalog.Literal

/-!
# ComponentBrowser.Proofs.Command.Outcomes

Which commands fail, and how.  Arguments have one of five shapes, and only two
of them lead to a failure:

```
(none)                      answered
list …                      answered
prompt <topic> …            answered
show <index> …              by the index, then by the file that it names
anything else               unrecognized
```

A preview fails on its way from the index to the file: the text has to be read
as an integer, the integer has to lie within the catalog, the file has to be
there, and it has to be readable.

* `shape` — the five shapes are all that there are;
* `loadPreview_eq_error_iff` — how previews fail;
* `answer_eq_error_iff` — how commands fail;
* `answer_outcomes` — the outcome of every command.
-/

namespace ComponentBrowser

open Component (catalog)

theorem Component.withIndex?_of_lt {i : Nat} (hi : i < catalog.length) :
    withIndex? i = some catalog[i] :=
  (withIndex?_natCast i).trans (List.getElem?_eq_getElem hi)

theorem Preview.load_of_outside {i : Int} (hi : ¬ (0 ≤ i ∧ i < catalog.length))
    (fs : FileSystem) (workspace : Path) (limit : Nat) :
    load fs workspace i limit = .error (.invalidIndex i) := by
  rw [← Component.isSome_withIndex?_iff, Option.not_isSome_iff_eq_none] at hi
  rw [load, hi]

namespace Command

/-! ## the shapes of arguments -/

/-- A first argument that names no command, or lacks what its command needs. -/
def Unrecognized (token : String) (rest : List String) : Prop :=
  token ≠ "list" ∧ ¬ ((token = "show" ∨ token = "prompt") ∧ rest ≠ [])

/-- The shapes of arguments. -/
inductive Shape : List String → Prop
  | usage : Shape []
  | list (rest : List String) : Shape ("list" :: rest)
  | preview (text : String) (rest : List String) : Shape ("show" :: text :: rest)
  | prompt (topic : String) (rest : List String) : Shape ("prompt" :: topic :: rest)
  | unrecognized {token : String} {rest : List String} (h : Unrecognized token rest) :
      Shape (token :: rest)

theorem shape (args : List String) : Shape args := by
  cases args with
  | nil => exact .usage
  | cons token rest =>
      by_cases hlist : token = "list"
      · rw [hlist]
        exact .list rest
      · cases rest with
        | nil => exact .unrecognized ⟨hlist, by simp⟩
        | cons argument rest =>
            by_cases hshow : token = "show"
            · rw [hshow]
              exact .preview argument rest
            · by_cases hprompt : token = "prompt"
              · rw [hprompt]
                exact .prompt argument rest
              · exact .unrecognized ⟨hlist, by simp [hshow, hprompt]⟩

@[simp] theorem ofArguments_list (rest : List String) : ofArguments ("list" :: rest) = list := by
  simp [ofArguments]

@[simp] theorem ofArguments_show (text : String) (rest : List String) :
    ofArguments ("show" :: text :: rest) = preview text := by
  simp [ofArguments]

@[simp] theorem ofArguments_prompt (topic : String) (rest : List String) :
    ofArguments ("prompt" :: topic :: rest) = prompt topic := by
  simp [ofArguments]

theorem ofArguments_of_unrecognized {token : String} {rest : List String}
    (h : Unrecognized token rest) : ofArguments (token :: rest) = unknown token := by
  obtain ⟨hlist, hrest⟩ := h
  rw [ofArguments, if_neg hlist]
  split
  · next hshow => simp [show rest = [] by simpa [hshow] using hrest]
  · split
    · next hprompt => simp [show rest = [] by simpa [hprompt] using hrest]
    · rfl

/-! ## previews -/

variable {fs : FileSystem} {s : Settings} {text : String}

/-- The ways in which a preview fails. -/
inductive PreviewFault (fs : FileSystem) (workspace : Path) (text : String) : Error → Prop
  /-- The text does not read as an index that can be told from others. -/
  | unread {e : Error} (h : Component.Index.parse text = .error e) :
      PreviewFault fs workspace text e
  | outside {i : Int} (h : Component.Index.parse text = .ok i)
      (hi : ¬ (0 ≤ i ∧ i < catalog.length)) : PreviewFault fs workspace text (.invalidIndex i)
  | missing {i : Nat} (hi : i < catalog.length) (h : Component.Index.parse text = .ok i)
      (hmissing : fs.holds (Component.pathIn workspace catalog[i].filename) = false) :
      PreviewFault fs workspace text (.componentNotFound catalog[i].filename)
  | unreadable {i : Nat} (hi : i < catalog.length) (h : Component.Index.parse text = .ok i)
      (hholds : fs.holds (Component.pathIn workspace catalog[i].filename) = true)
      {cause : ReadError}
      (hread : fs.read (Component.pathIn workspace catalog[i].filename) = .error cause) :
      PreviewFault fs workspace text (.io cause)

theorem loadPreview_of_parse_error {e : Error} (h : Component.Index.parse text = .error e) :
    loadPreview fs s text = .error e := by
  rw [loadPreview, h]
  rfl

theorem loadPreview_of_parse {i : Int} (h : Component.Index.parse text = .ok i) :
    loadPreview fs s text = Preview.load fs s.workspace i s.previewChars := by
  rw [loadPreview, h]
  rfl

/-- A preview that fails does so in one of the four ways. -/
theorem previewFault_of_loadPreview {e : Error} (h : loadPreview fs s text = .error e) :
    PreviewFault fs s.workspace text e := by
  cases hparse : Component.Index.parse text with
  | error e' =>
      rw [loadPreview_of_parse_error hparse] at h
      injection h with h
      rw [← h]
      exact .unread hparse
  | ok i =>
      rw [loadPreview_of_parse hparse] at h
      by_cases hi : 0 ≤ i ∧ i < catalog.length
      · -- the integer is a place in the catalog
        obtain ⟨n, rfl⟩ := Int.eq_ofNat_of_zero_le hi.1
        have hn : n < catalog.length := Int.ofNat_lt.mp hi.2
        have hc := Component.withIndex?_of_lt hn
        cases hholds : fs.holds (Component.pathIn s.workspace catalog[n].filename) with
        | false =>
            rw [Preview.load_of_holds_eq_false hc hholds] at h
            injection h with h
            rw [← h]
            exact .missing hn hparse hholds
        | true =>
            cases hread : fs.read (Component.pathIn s.workspace catalog[n].filename) with
            | ok content =>
                rw [Preview.load_of_read_eq_ok hc hread] at h
                contradiction
            | error cause =>
                rw [Preview.load_of_read_eq_error hc hholds hread] at h
                injection h with h
                rw [← h]
                exact .unreadable hn hparse hholds hread
      · rw [Preview.load_of_outside hi] at h
        injection h with h
        rw [← h]
        exact .outside hparse hi

theorem loadPreview_eq_error_iff (fs : FileSystem) (s : Settings) (text : String) (e : Error) :
    loadPreview fs s text = .error e ↔ PreviewFault fs s.workspace text e := by
  refine ⟨previewFault_of_loadPreview, ?_⟩
  intro h
  cases h with
  | unread hparse => exact loadPreview_of_parse_error hparse
  | outside hparse hi => rw [loadPreview_of_parse hparse, Preview.load_of_outside hi]
  | missing hi hparse hmissing =>
      rw [loadPreview_of_parse hparse,
        Preview.load_of_holds_eq_false (Component.withIndex?_of_lt hi) hmissing]
  | unreadable hi hparse hholds hread =>
      rw [loadPreview_of_parse hparse,
        Preview.load_of_read_eq_error (Component.withIndex?_of_lt hi) hholds hread]

/-! ### the kinds of failures -/

theorem eq_of_parse_eq_error {e : Error} (h : Component.Index.parse text = .error e) :
    e = .malformedIndex text ∨ ∃ i, e = .invalidIndex i := by
  rcases Component.Index.parse_cases text with ⟨n, hparse⟩ | ⟨i, hparse⟩ | hparse
  · rw [hparse] at h
    contradiction
  · rw [hparse] at h
    injection h with h
    exact .inr ⟨i, h.symm⟩
  · rw [hparse] at h
    injection h with h
    exact .inl h.symm

variable {workspace : Path}

/-- A preview is refused for its index exactly when the text reads as none, or
as one outside the catalog. -/
theorem previewFault_index_iff (e : Error) :
    PreviewFault fs workspace text e ∧ (e = .malformedIndex text ∨ ∃ i, e = .invalidIndex i) ↔
      Component.Index.parse text = .error e ∨
        ∃ i, Component.Index.parse text = .ok i ∧ ¬ (0 ≤ i ∧ i < catalog.length) ∧
          e = .invalidIndex i := by
  constructor
  · rintro ⟨h, hkind⟩
    cases h with
    | unread hparse => exact .inl hparse
    | outside hparse hi => exact .inr ⟨_, hparse, hi, rfl⟩
    | missing | unreadable => simp at hkind
  · rintro (hparse | ⟨i, hparse, hi, rfl⟩)
    · exact ⟨.unread hparse, eq_of_parse_eq_error hparse⟩
    · exact ⟨.outside hparse hi, .inr ⟨i, rfl⟩⟩

theorem previewFault_componentNotFound_iff (filename : String) :
    PreviewFault fs workspace text (.componentNotFound filename) ↔
      ∃ (i : Nat) (hi : i < catalog.length), Component.Index.parse text = .ok (i : Int) ∧
        catalog[i].filename = filename ∧
        fs.holds (Component.pathIn workspace filename) = false := by
  constructor
  · intro h
    cases h with
    | unread hparse => simpa using eq_of_parse_eq_error hparse
    | missing hi hparse hmissing => exact ⟨_, hi, hparse, rfl, hmissing⟩
  · rintro ⟨i, hi, hparse, rfl, hmissing⟩
    exact .missing hi hparse hmissing

theorem previewFault_io_iff (cause : ReadError) :
    PreviewFault fs workspace text (.io cause) ↔
      ∃ (i : Nat) (hi : i < catalog.length), Component.Index.parse text = .ok (i : Int) ∧
        fs.holds (Component.pathIn workspace catalog[i].filename) = true ∧
        fs.read (Component.pathIn workspace catalog[i].filename) = .error cause := by
  constructor
  · intro h
    cases h with
    | unread hparse => simpa using eq_of_parse_eq_error hparse
    | unreadable hi hparse hholds hread => exact ⟨_, hi, hparse, hholds, hread⟩
  · rintro ⟨i, hi, hparse, hholds, hread⟩
    exact .unreadable hi hparse hholds hread

/-- What is no fault of a preview. -/
theorem PreviewFault.kind {e : Error} (h : PreviewFault fs workspace text e) :
    (∀ token, e ≠ .unrecognizedCommand token) ∧ (∀ fault, e ≠ .settings fault) ∧
      ∀ detail, e ≠ .serialization detail := by
  cases h with
  | unread hparse =>
      rcases eq_of_parse_eq_error hparse with rfl | ⟨i, rfl⟩ <;> simp
  | outside | missing | unreadable => simp

/-! ## commands -/

/-- The ways in which a command fails. -/
inductive Fault (fs : FileSystem) (workspace : Path) : List String → Error → Prop
  | unrecognized {token : String} {rest : List String} (h : Unrecognized token rest) :
      Fault fs workspace (token :: rest) (.unrecognizedCommand token)
  | preview {text : String} {e : Error} (h : PreviewFault fs workspace text e)
      (rest : List String) : Fault fs workspace ("show" :: text :: rest) e

theorem answer_preview_eq_error_iff (fs : FileSystem) (s : Settings) (json : Bool)
    (text : String) (e : Error) :
    (preview text).answer fs s json = .error e ↔ PreviewFault fs s.workspace text e := by
  rw [answer, ← loadPreview_eq_error_iff]
  cases loadPreview fs s text <;> simp [Except.map]

/-- A command fails in these ways and no others, whether or not its answer is
wanted as JSON. -/
theorem answer_eq_error_iff (fs : FileSystem) (s : Settings) (json : Bool) (args : List String)
    (e : Error) :
    (ofArguments args).answer fs s json = .error e ↔ Fault fs s.workspace args e := by
  constructor
  · intro h
    cases shape args with
    | usage => contradiction
    | list rest =>
        rw [ofArguments_list] at h
        contradiction
    | preview text rest =>
        rw [ofArguments_show, answer_preview_eq_error_iff] at h
        exact .preview h rest
    | prompt topic rest =>
        rw [ofArguments_prompt] at h
        contradiction
    | unrecognized hunrecognized =>
        rw [ofArguments_of_unrecognized hunrecognized] at h
        injection h with h
        rw [← h]
        exact .unrecognized hunrecognized
  · intro h
    cases h with
    | unrecognized hunrecognized => rw [ofArguments_of_unrecognized hunrecognized]; rfl
    | preview hfault rest => rwa [ofArguments_show, answer_preview_eq_error_iff]

theorem fault_unrecognizedCommand_iff (args : List String) (token : String) :
    Fault fs workspace args (.unrecognizedCommand token) ↔
      ∃ rest, args = token :: rest ∧ Unrecognized token rest := by
  constructor
  · intro h
    cases h with
    | unrecognized hunrecognized => exact ⟨_, rfl, hunrecognized⟩
    | preview hfault => exact absurd rfl (hfault.kind.1 token)
  · rintro ⟨rest, rfl, h⟩
    exact .unrecognized h

theorem fault_preview_iff (text : String) (rest : List String) (e : Error) :
    Fault fs workspace ("show" :: text :: rest) e ↔ PreviewFault fs workspace text e := by
  refine ⟨?_, fun h => .preview h rest⟩
  intro h
  cases h with
  | unrecognized hunrecognized => exact absurd hunrecognized (by simp [Unrecognized])
  | preview hfault => exact hfault

/-- No command fails for its settings or for JSON. -/
theorem Fault.kind {args : List String} {e : Error} (h : Fault fs workspace args e) :
    (∀ fault, e ≠ .settings fault) ∧ ∀ detail, e ≠ .serialization detail := by
  cases h with
  | unrecognized => simp
  | preview hfault => exact hfault.kind.2

theorem answer_show_json (fs : FileSystem) (s : Settings) (args : List String)
    (h : args = [] ∨ args.head? = some "show") (json json' : Bool) :
    (ofArguments args).answer fs s json' = (ofArguments args).answer fs s json := by
  cases shape args with
  | usage => rfl
  | preview text rest => rw [ofArguments_show]; rfl
  | list | prompt => simp at h
  | unrecognized hunrecognized => rw [ofArguments_of_unrecognized hunrecognized]; rfl

/-- **The outcome of every command**, by its arguments.  Asking for JSON changes
no failure, and no answer of a preview or of the usage. -/
theorem answer_outcomes (fs : FileSystem) (s : Settings) (args : List String) :
    (args = [] ∨ (∃ rest, args = "list" :: rest) ∨
        (∃ topic rest, args = "prompt" :: topic :: rest) →
      ∀ json, ∃ text, (ofArguments args).answer fs s json = .ok text) ∧
    (∀ json token, (ofArguments args).answer fs s json = .error (.unrecognizedCommand token) ↔
      ∃ rest, args = token :: rest ∧ Unrecognized token rest) ∧
    (∀ text rest, args = "show" :: text :: rest → ∀ json,
      (∀ e, (ofArguments args).answer fs s json = .error e ∧
          (e = .malformedIndex text ∨ ∃ i, e = .invalidIndex i) ↔
        Component.Index.parse text = .error e ∨
          ∃ i, Component.Index.parse text = .ok i ∧ ¬ (0 ≤ i ∧ i < catalog.length) ∧
            e = .invalidIndex i) ∧
      (∀ filename, (ofArguments args).answer fs s json = .error (.componentNotFound filename) ↔
        ∃ (i : Nat) (hi : i < catalog.length), Component.Index.parse text = .ok (i : Int) ∧
          catalog[i].filename = filename ∧
          fs.holds (Component.pathIn s.workspace filename) = false) ∧
      (∀ cause, (ofArguments args).answer fs s json = .error (.io cause) ↔
        ∃ (i : Nat) (hi : i < catalog.length), Component.Index.parse text = .ok (i : Int) ∧
          fs.holds (Component.pathIn s.workspace catalog[i].filename) = true ∧
          fs.read (Component.pathIn s.workspace catalog[i].filename) = .error cause)) ∧
    (∀ json, (∀ fault, (ofArguments args).answer fs s json ≠ .error (.settings fault)) ∧
      ∀ detail, (ofArguments args).answer fs s json ≠ .error (.serialization detail)) ∧
    (∀ e, (ofArguments args).answer fs s true = .error e ↔
      (ofArguments args).answer fs s false = .error e) ∧
    (args = [] ∨ args.head? = some "show" →
      (ofArguments args).answer fs s true = (ofArguments args).answer fs s false) := by
  refine ⟨?_, ?_, ?_, ?_, ?_, ?_⟩
  · rintro (rfl | ⟨rest, rfl⟩ | ⟨topic, rest, rfl⟩) json
    · exact ⟨_, rfl⟩
    · rw [ofArguments_list]
      exact ⟨_, rfl⟩
    · rw [ofArguments_prompt]
      exact ⟨_, rfl⟩
  · intro json token
    rw [answer_eq_error_iff]
    exact fault_unrecognizedCommand_iff args token
  · rintro text rest rfl json
    simp only [answer_eq_error_iff, fault_preview_iff]
    exact ⟨previewFault_index_iff, previewFault_componentNotFound_iff, previewFault_io_iff⟩
  · intro json
    have hkind := fun e h => ((answer_eq_error_iff fs s json args e).mp h).kind
    exact ⟨fun fault h => (hkind _ h).1 fault rfl, fun detail h => (hkind _ h).2 detail rfl⟩
  · intro e
    rw [answer_eq_error_iff, answer_eq_error_iff]
  · intro h
    exact answer_show_json fs s args h false true

/-- A prompt, an unknown command and three previews in a workspace where one
component is missing, one is a directory, and one can be read. -/
theorem answer_outcomes_linked :
    let fs := Listing.linkedWorkspace
    let s : Settings := ⟨Path.ofText "w", none, none, false, false, 1⟩
    (∃ text, (ofArguments ["prompt", "btree"]).answer fs s true = .ok text) ∧
      (ofArguments ["show"]).answer fs s true = .error (.unrecognizedCommand "show") ∧
      (ofArguments ["show", "22"]).answer fs s true = .error (.invalidIndex 22) ∧
      (ofArguments ["show", " +2 ", "x"]).answer fs s true =
        .error (.componentNotFound "01_page_management.txt") ∧
      (ofArguments ["show", "0_3"]).answer fs s true = .error (.io .isDirectory) ∧
      (ofArguments ["show", "0"]).answer fs s true =
        (ofArguments ["show", "0"]).answer fs s false := by
  intro fs s
  obtain ⟨hprompt, -⟩ := answer_outcomes fs s ["prompt", "btree"]
  obtain ⟨-, hunknown, -⟩ := answer_outcomes fs s ["show"]
  obtain ⟨-, -, houtside, -⟩ := answer_outcomes fs s ["show", "22"]
  obtain ⟨-, -, hmissing, -⟩ := answer_outcomes fs s ["show", " +2 ", "x"]
  obtain ⟨-, -, hunreadable, -⟩ := answer_outcomes fs s ["show", "0_3"]
  obtain ⟨-, -, -, -, -, hjson⟩ := answer_outcomes fs s ["show", "0"]
  refine ⟨hprompt (.inr (.inr ⟨_, _, rfl⟩)) true, ?_, ?_, ?_, ?_, hjson (.inr rfl)⟩
  · exact (hunknown true "show").mpr ⟨[], rfl, by simp [Unrecognized]⟩
  · exact (((houtside "22" [] rfl true).1 _).mpr (.inr ⟨22, rfl, by decide, rfl⟩)).1
  · exact ((hmissing " +2 " ["x"] rfl true).2.1 _).mpr ⟨2, by decide, rfl, rfl, rfl⟩
  · exact ((hunreadable "0_3" [] rfl true).2.2 _).mpr ⟨3, by decide, rfl, rfl, rfl⟩

end Command

end ComponentBrowser
