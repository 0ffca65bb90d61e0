import ComponentBrowser.Proofs.CommandLine.StandIns
import ComponentBrowser.Proofs.Text.Utf8

/-!
# ComponentBrowser.Proofs.CommandLine.Spelling

Command lines as they are written: options, then a command, then anything.

Options come in any order, and one with a value comes in either of two
spellings.  `Spelled` relates options to the words that write them, and `Says`
to what is collected of them; neither mentions the reader.

A value in a word of its own is looked at only when the next word comes.  What
the reader has taken is therefore told behind `settle`: `Reader.Holds` is the
invariant that every spelled option keeps.

* `Reader.holds_of_spells`, `Reader.holds_of_spelled` — one option, and all of them;
* `Reader.readSwitches_command` — the command ends the options;
* `read_of_spelled` — what a whole command line asks for.
-/

namespace ComponentBrowser

namespace CommandLine

/-- An option that is given, with its value. -/
inductive Given where
  | workspace (p : Path)
  | config (file : Path)
  | logLevel (text : String)
  | verbose
  | noColor
  | json
  deriving DecidableEq

namespace Given

def switch : Given → Switch
  | workspace _ => .workspace
  | config _ => .config
  | logLevel _ => .logLevel
  | verbose => .verbose
  | noColor => .noColor
  | json => .json

def value? : Given → Option Bytes
  | workspace p => some p.bytes
  | config file => some file.bytes
  | logLevel text => some (Bytes.ofText text)
  | verbose | noColor | json => none

/-- The overrides with an option. -/
def addTo (o : Overrides) : Given → Overrides
  | workspace p => { o with workspace? := some p }
  | config file => { o with configFile? := some file }
  | logLevel text => { o with logLevel? := some text }
  | verbose => { o with verbose := true }
  | noColor => { o with noColor := true }
  | json => o

/-- Overrides and the wish for JSON show an option. -/
def ShownBy (o : Overrides) (wantsJson : Bool) : Given → Prop
  | workspace p => o.workspace? = some p
  | config file => o.configFile? = some file
  | logLevel text => o.logLevel? = some text
  | verbose => o.verbose = true
  | noColor => o.noColor = true
  | json => wantsJson = true

theorem takesValue_switch (g : Given) : g.switch.takesValue = g.value?.isSome := by
  cases g <;> rfl

/-- Adding an option shows it in place of any other value of its switch. -/
theorem shownBy_addTo_iff (g other : Given) (o : Overrides) (wantsJson : Bool) :
    other.ShownBy (g.addTo o) (wantsJson || g.switch == .json) ↔
      if other.switch = g.switch then other = g else other.ShownBy o wantsJson := by
  cases g <;> cases other <;> simp [addTo, ShownBy, switch]
  all_goals exact eq_comm

end Given

/-! ## what options say -/

/-- What is collected shows these options and no other. -/
def Says (options : List Given) (o : Overrides) (wantsJson : Bool) : Prop :=
  ∀ g : Given, g.ShownBy o wantsJson ↔ g ∈ options

theorem says_nil : Says [] {} false := by
  intro g
  cases g <;> simp [Given.ShownBy]

theorem Says.append {options : List Given} {o : Overrides} {wantsJson : Bool} {g : Given}
    (h : Says options o wantsJson) (hnew : g.switch ∉ options.map Given.switch) :
    Says (options ++ [g]) (g.addTo o) (wantsJson || g.switch == .json) := by
  intro other
  rw [Given.shownBy_addTo_iff, List.mem_append, List.mem_singleton]
  by_cases hswitch : other.switch = g.switch
  · have hother : other ∉ options := fun hmem =>
      hnew (hswitch ▸ List.mem_map_of_mem hmem)
    rw [if_pos hswitch, or_iff_right hother]
  · have hne : other ≠ g := fun heq => hswitch (congrArg Given.switch heq)
    rw [if_neg hswitch, or_iff_left hne, h other]

theorem Says.perm {options order : List Given} {o : Overrides} {wantsJson : Bool}
    (h : Says options o wantsJson) (hperm : order.Perm options) : Says order o wantsJson :=
  fun g => (h g).trans hperm.mem_iff.symm

/-- Options leave nothing open. -/
theorem Says.unique {options : List Given} {o o' : Overrides} {wantsJson wantsJson' : Bool}
    (h : Says options o wantsJson) (h' : Says options o' wantsJson') :
    o = o' ∧ wantsJson = wantsJson' := by
  have hsame (g : Given) : g.ShownBy o wantsJson ↔ g.ShownBy o' wantsJson' :=
    (h g).trans (h' g).symm
  obtain ⟨workspace?, configFile?, logLevel?, verbose, noColor⟩ := o
  obtain ⟨workspace?', configFile?', logLevel?', verbose', noColor'⟩ := o'
  have hworkspace : workspace? = workspace?' := Option.ext fun p => hsame (.workspace p)
  have hconfig : configFile? = configFile?' := Option.ext fun file => hsame (.config file)
  have hlevel : logLevel? = logLevel?' := Option.ext fun text => hsame (.logLevel text)
  have hverbose : verbose = verbose' := Bool.eq_iff_iff.mpr (hsame .verbose)
  have hcolor : noColor = noColor' := Bool.eq_iff_iff.mpr (hsame .noColor)
  have hjson : wantsJson = wantsJson' := Bool.eq_iff_iff.mpr (hsame .json)
  subst hworkspace hconfig hlevel hverbose hcolor
  exact ⟨rfl, hjson⟩

/-! ## how options are written -/

/-- A word that could be taken for a switch. -/
def BeginsWithDash (word : Bytes) : Prop := word.head? = some 0x2D

instance (word : Bytes) : Decidable (BeginsWithDash word) :=
  inferInstanceAs (Decidable (word.head? = some 0x2D))

/-- The word that names a switch. -/
def Switch.word (s : Switch) : Bytes := 0x2D :: 0x2D :: Bytes.ofText s.longName

/-- The words that write an option.  A value may not be empty, and one in a
word of its own may not look like a switch. -/
inductive Spells (g : Given) : List Bytes → Prop where
  | flag (h : g.value? = none) : Spells g [g.switch.word]
  | joined {value : Bytes} (h : g.value? = some value) (hne : value ≠ []) :
      Spells g [g.switch.word ++ 0x3D :: value]
  | apart {value : Bytes} (h : g.value? = some value) (hne : value ≠ [])
      (hdash : ¬ BeginsWithDash value) : Spells g [g.switch.word, value]

/-- The words that write options one after the other. -/
inductive Spelled : List Given → List Bytes → Prop where
  | nil : Spelled [] []
  | cons {g : Given} {options : List Given} {first words : List Bytes}
      (hfirst : Spells g first) (hwords : Spelled options words) :
      Spelled (g :: options) (first ++ words)

namespace Reader

/-! ## what a word is -/

theorem ne_equals_of_mem_longName (s : Switch) : ∀ b ∈ Bytes.ofText s.longName, b ≠ 0x3D := by
  cases s <;> decide +kernel

theorem takeWhile_longName (s : Switch) (behind : Bytes) :
    (Bytes.ofText s.longName ++ behind).takeWhile (fun b => b != 0x3D) =
      Bytes.ofText s.longName ++ behind.takeWhile (fun b => b != 0x3D) := by
  apply List.takeWhile_append_of_pos
  intro b hb
  exact bne_iff_ne.mpr (ne_equals_of_mem_longName s b hb)

theorem ofLong_longName (s : Switch) : ofLong (Bytes.ofText s.longName) = .long s none := by
  have hname := takeWhile_longName s []
  rw [List.takeWhile_nil, List.append_nil] at hname
  simp [ofLong, hname, Bytes.toText?_ofText, Switch.ofLongName?_longName]

theorem ofLong_longName_equals (s : Switch) (value : Bytes) :
    ofLong (Bytes.ofText s.longName ++ 0x3D :: value) = .long s (some value) := by
  have hname := takeWhile_longName s (0x3D :: value)
  rw [List.takeWhile_cons_of_neg (by decide), List.append_nil] at hname
  simp [ofLong, hname, Bytes.toText?_ofText, Switch.ofLongName?_longName]

/-- Two dashes and a name are not the mark that ends the switches. -/
theorem classify_word_append (s : Switch) (behind : Bytes) :
    classify (s.word ++ behind) = ofLong (Bytes.ofText s.longName ++ behind) := by
  obtain ⟨b, name, hname⟩ : ∃ b name, Bytes.ofText s.longName = b :: name := by
    cases s <;> exact ⟨_, _, rfl⟩
  rw [Switch.word, hname]
  rfl

theorem classify_word (s : Switch) : classify s.word = .long s none := by
  have h := classify_word_append s []
  rwa [List.append_nil, List.append_nil, ofLong_longName] at h

theorem classify_word_equals (s : Switch) (value : Bytes) :
    classify (s.word ++ 0x3D :: value) = .long s (some value) := by
  rw [classify_word_append, ofLong_longName_equals]

theorem classify_of_not_beginsWithDash {word : Bytes} (h : ¬ BeginsWithDash word) :
    classify word = .other := by
  unfold classify
  split
  · exact absurd rfl h
  · exact absurd rfl h
  · exact absurd rfl h
  · rfl

/-! ## one option -/

/-- The reader waits for nothing and has taken these options. -/
structure Took (r : Reader) (done : List Given) : Prop where
  waiting : r.waiting? = none
  settled : r.settled = done.map Given.switch
  shown : Says done r.overrides r.json

/-- The reader will have taken these options once nothing waits. -/
def Holds (r : Reader) (done : List Given) : Prop := ∃ r₀, r.settle = .ok r₀ ∧ r₀.Took done

variable {r r₀ : Reader} {done : List Given} {g : Given}

theorem took_start : start.Took [] := ⟨rfl, rfl, says_nil⟩

theorem settle_eq_self (h : r.waiting? = none) : r.settle = .ok r := by
  unfold settle
  rw [h]

theorem Took.holds (h : r.Took done) : r.Holds done := ⟨r, settle_eq_self h.waiting, h⟩

/-- Nothing that can be settled waits for its value. -/
theorem Holds.waiting_ne (h : r.Holds done) (s : Switch) : r.waiting? ≠ some ⟨s, none⟩ := by
  intro hwaiting
  obtain ⟨r₀, hsettle, -⟩ := h
  unfold settle at hsettle
  rw [hwaiting] at hsettle
  contradiction

theorem apply_given (g : Given) (o : Overrides) (hne : g.value? ≠ some []) :
    apply o g.switch (g.value?.getD []) = .ok (g.addTo o) := by
  cases g with
  | workspace p | config p =>
      have hp : p.bytes ≠ [] := fun h => hne (congrArg some h)
      simp [apply, Given.switch, Given.value?, Given.addTo, pathValue_of_ne_nil _ hp, Except.map]
  | logLevel text =>
      simp [apply, Given.switch, Given.value?, Given.addTo, textValue, Bytes.toText?_ofText,
        Except.map]
  | verbose | noColor | json => rfl

/-- Taking an option whose switch is new. -/
theorem Took.take (h : r.Took done) (hnew : g.switch ∉ done.map Given.switch)
    (hne : g.value? ≠ some []) :
    ∃ r', r.take g.switch (g.value?.getD []) = .ok r' ∧ r'.Took (done ++ [g]) := by
  have hunsettled : g.switch ∉ r.settled := by rwa [h.settled]
  have happly := apply_given g r.overrides hne
  refine ⟨_, (take_eq_ok_iff _ _ _ _).mpr ⟨hunsettled, _, happly, rfl⟩, h.waiting, ?_, ?_⟩
  · simp [h.settled]
  · exact h.shown.append hnew

theorem switch_flag {s : Switch} (hs : s.takesValue = false) (hsettle : r.settle = .ok r₀) :
    r.switch s none = r₀.take s [] := by
  unfold switch
  rw [if_neg (Bool.eq_false_iff.mp hs), hsettle]
  rfl

theorem switch_joined {s : Switch} (hs : s.takesValue = true) (hsettle : r.settle = .ok r₀)
    (value : Bytes) : r.switch s (some value) = r₀.take s value := by
  unfold switch
  rw [if_pos hs, hsettle]
  rfl

theorem switch_apart {s : Switch} (hs : s.takesValue = true) (hsettle : r.settle = .ok r₀) :
    r.switch s none = .ok { r₀ with waiting? := some ⟨s, none⟩ } := by
  unfold switch
  rw [if_pos hs, hsettle]
  rfl

theorem readSwitches_cons_long {r' : Reader} {word : Bytes} {s : Switch} {value? : Option Bytes}
    (hword : classify word = .long s value?) (hswitch : r.switch s value? = .ok r')
    (rest : List Bytes) : r.readSwitches (word :: rest) = r'.readSwitches rest := by
  rw [readSwitches, hword]
  change (r.switch s value?).bind _ = _
  rw [hswitch]
  rfl

/-- A word that looks like no switch is the value that is waited for. -/
theorem readSwitches_cons_value {word : Bytes} {s : Switch} (hword : ¬ BeginsWithDash word)
    (rest : List Bytes) :
    { r with waiting? := some ⟨s, none⟩ }.readSwitches (word :: rest) =
      { r with waiting? := some ⟨s, some word⟩ }.readSwitches rest := by
  rw [readSwitches, classify_of_not_beginsWithDash hword]

theorem Took.settle_waiting (h : r.Took done) (s : Switch) (value : Bytes) :
    { r with waiting? := some ⟨s, some value⟩ }.settle = r.take s value := by
  have hsame : { r with waiting? := none } = r := by
    rw [← h.waiting]
  change { r with waiting? := none }.take s value = _
  rw [hsame]

/-- **One option.**  Reading the words that spell it, the reader comes to hold
it too. -/
theorem holds_of_spells {words : List Bytes} (h : Spells g words) (hr : r.Holds done)
    (hnew : g.switch ∉ done.map Given.switch) (rest : List Bytes) :
    ∃ r' : Reader, r.readSwitches (words ++ rest) = r'.readSwitches rest ∧ r'.Holds (done ++ [g]) := by
  obtain ⟨r₀, hsettle, hr₀⟩ := hr
  have htakes := g.takesValue_switch
  cases h with
  | flag hvalue =>
      rw [hvalue] at htakes
      obtain ⟨r', htake, hr'⟩ := hr₀.take hnew (by simp [hvalue])
      rw [hvalue] at htake
      have hswitch := (switch_flag htakes hsettle).trans htake
      exact ⟨r', readSwitches_cons_long (classify_word _) hswitch rest, hr'.holds⟩
  | joined hvalue hne =>
      rw [hvalue] at htakes
      obtain ⟨r', htake, hr'⟩ := hr₀.take hnew (by simp [hvalue, hne])
      rw [hvalue] at htake
      have hswitch := (switch_joined htakes hsettle _).trans htake
      exact ⟨r', readSwitches_cons_long (classify_word_equals _ _) hswitch rest, hr'.holds⟩
  | @apart value hvalue hne hdash =>
      rw [hvalue] at htakes
      obtain ⟨r', htake, hr'⟩ := hr₀.take hnew (by simp [hvalue, hne])
      rw [hvalue] at htake
      -- the value waits until the next word settles it
      refine ⟨{ r₀ with waiting? := some ⟨g.switch, some value⟩ }, ?_,
        r', (hr₀.settle_waiting _ _).trans htake, hr'⟩
      have hswitch := switch_apart htakes hsettle
      exact (readSwitches_cons_long (classify_word _) hswitch _).trans
        (readSwitches_cons_value hdash rest)

/-! ## all options, and the command -/

/-- **Any number of options**, each switch at most once. -/
theorem holds_of_spelled {options : List Given} {words : List Bytes} (h : Spelled options words)
    (hr : r.Holds done) (hdistinct : ((done ++ options).map Given.switch).Nodup)
    (rest : List Bytes) :
    ∃ r' : Reader, r.readSwitches (words ++ rest) = r'.readSwitches rest ∧
      r'.Holds (done ++ options) := by
  induction h generalizing r done with
  | nil => exact ⟨r, rfl, by rwa [List.append_nil]⟩
  | @cons g options first words hfirst _ ih =>
      have hnew : g.switch ∉ done.map Given.switch := by
        rw [List.map_append, List.map_cons] at hdistinct
        have hseparate := (List.nodup_append.mp hdistinct).2.2
        exact fun hmem => hseparate _ hmem _ List.mem_cons_self rfl
      rw [List.append_cons] at hdistinct ⊢
      obtain ⟨r₁, h₁, hr₁⟩ := holds_of_spells hfirst hr hnew (words ++ rest)
      obtain ⟨r', h', hr'⟩ := ih hr₁ hdistinct
      exact ⟨r', by rw [List.append_assoc, h₁, h'], hr'⟩

/-- The command ends the options, and what comes behind it is not looked at. -/
theorem readSwitches_command {command : Bytes} (hr : r.Holds done)
    (hcommand : ¬ BeginsWithDash command) (rest : List Bytes) :
    r.readSwitches (command :: rest) = .ok (r, command :: rest) := by
  rw [readSwitches, classify_of_not_beginsWithDash hcommand]
  dsimp only
  split
  · next s hwaiting => exact absurd hwaiting (hr.waiting_ne s)
  · rfl

theorem mapM_textValue_ofText (texts : List String) :
    (texts.map Bytes.ofText).mapM textValue = .ok texts := by
  induction texts with
  | nil => rfl
  | cons text texts ih =>
      have htext : textValue (Bytes.ofText text) = .ok text := by
        rw [textValue, Bytes.toText?_ofText]
      rw [List.map_cons, List.mapM_cons, htext, ih]
      rfl

end Reader

/-! ## whole command lines -/

theorem withStandIns_of_unset {v : Variables} (hworkspace : v.workspace? = none)
    (hconfig : v.configFile? = none) (o : Overrides) : o.withStandIns v = o := by
  simp [Overrides.withStandIns, hworkspace, hconfig]

/-- Without variables, a command line asks for what its words say. -/
theorem read_of_readWords {v : Variables} (hworkspace : v.workspace? = none)
    (hconfig : v.configFile? = none) {words : List Bytes} {r : Reader} {arguments : List String}
    (h : readWords words = .ok (r, arguments)) :
    read v words = .ok ⟨r.overrides, r.json, arguments⟩ := by
  have hv : ∀ s, Notice.variableValue? v s ≠ some [] := by
    intro s
    cases s <;> simp [Notice.variableValue?, hworkspace, hconfig]
  obtain ⟨r', hr', ho, hj⟩ := Reader.foldlM_withVariable hv Switch.all (recorded_readWords h)
  have hsame : r'.overrides = r.overrides := by
    rw [ho, foldl_withStandIn_all, withStandIns_of_unset hworkspace hconfig]
  rw [read_eq, h]
  simp only [Except.bind, hr', Except.map, hsame, hj]

/-- The words of a command line: options, a command and its arguments. -/
theorem readWords_of_spelled {options : List Given} {words : List Bytes}
    (h : Spelled options words) (hdistinct : (options.map Given.switch).Nodup) {command : String}
    (hcommand : ¬ BeginsWithDash (Bytes.ofText command)) (arguments : List String) :
    ∃ r : Reader, readWords (words ++ (command :: arguments).map Bytes.ofText) =
      .ok (r, command :: arguments) ∧ Says options r.overrides r.json := by
  obtain ⟨r, hoptions, hr⟩ := Reader.holds_of_spelled h Reader.took_start.holds hdistinct
    ((command :: arguments).map Bytes.ofText)
  have hread := hoptions.trans (Reader.readSwitches_command hr hcommand (arguments.map Bytes.ofText))
  obtain ⟨r₀, hsettle, hr₀⟩ := hr
  have htexts := Reader.mapM_textValue_ofText (command :: arguments)
  refine ⟨r₀, ?_, hr₀.shown⟩
  exact (bind_eq_ok_iff _ _ _).mpr ⟨_, hread, (bind_eq_ok_iff _ _ _).mpr ⟨_, hsettle,
    (bind_eq_ok_iff _ _ _).mpr ⟨_, htexts, rfl⟩⟩⟩

/-- **Options, then a command, then anything.**  With no variable to stand in
for them, options that are each given at most once are collected whatever their
order and spelling, and nothing else is.  The command and all words behind it
are the arguments, unchanged, also where they look like options. -/
theorem read_of_spelled {v : Variables} (hworkspace : v.workspace? = none)
    (hconfig : v.configFile? = none) {options : List Given} {words : List Bytes}
    (h : Spelled options words) (hdistinct : (options.map Given.switch).Nodup) {command : String}
    (hcommand : ¬ BeginsWithDash (Bytes.ofText command)) (arguments : List String) :
    ∃ q, read v (words ++ (command :: arguments).map Bytes.ofText) = .ok q ∧
      q.arguments = command :: arguments ∧ Says options q.overrides q.json ∧
      ∀ order words', order.Perm options → Spelled order words' →
        read v (words' ++ (command :: arguments).map Bytes.ofText) = .ok q := by
  obtain ⟨r, hr, hshown⟩ := readWords_of_spelled h hdistinct hcommand arguments
  refine ⟨_, read_of_readWords hworkspace hconfig hr, rfl, hshown, ?_⟩
  intro order words' hperm h'
  have hdistinct' : (order.map Given.switch).Nodup :=
    ((hperm.map Given.switch).nodup_iff).mpr hdistinct
  obtain ⟨r', hr', hshown'⟩ := readWords_of_spelled h' hdistinct' hcommand arguments
  obtain ⟨ho, hj⟩ := hshown'.unique (hshown.perm hperm)
  rw [read_of_readWords hworkspace hconfig hr', ho, hj]

/-- Three options in two orders and spellings, and four words behind the
command that look like options or like nothing. -/
theorem read_of_spelled_shuffled :
    ∃ q, read {} (["--log-level=x", "--workspace", "w", "--json",
        "show", "--", "--json", "-h", ""].map Bytes.ofText) = .ok q ∧
      q.arguments = ["show", "--", "--json", "-h", ""] ∧
      q.overrides.workspace? = some (Path.ofText "w") ∧ q.overrides.logLevel? = some "x" ∧
      q.json = true ∧ q.overrides.verbose ≠ true ∧
      read {} (["--json", "--workspace=w", "--log-level", "x",
        "show", "--", "--json", "-h", ""].map Bytes.ofText) = .ok q := by
  have hwords : Spelled [.logLevel "x", .workspace (Path.ofText "w"), .json]
      ([Switch.logLevel.word ++ 0x3D :: Bytes.ofText "x"] ++
        ([Switch.workspace.word, Bytes.ofText "w"] ++ ([Switch.json.word] ++ []))) :=
    .cons (.joined rfl (by decide)) (.cons (.apart rfl (by decide) (by decide))
      (.cons (.flag rfl) .nil))
  have hwords' : Spelled [.json, .workspace (Path.ofText "w"), .logLevel "x"]
      ([Switch.json.word] ++ ([Switch.workspace.word ++ 0x3D :: Bytes.ofText "w"] ++
        ([Switch.logLevel.word, Bytes.ofText "x"] ++ []))) :=
    .cons (.flag rfl) (.cons (.joined rfl (by decide))
      (.cons (.apart rfl (by decide) (by decide)) .nil))
  have hcommand : ¬ BeginsWithDash (Bytes.ofText "show") := by decide
  obtain ⟨q, hread, harguments, hshown, hothers⟩ := read_of_spelled (v := {}) rfl rfl hwords
    (by decide) hcommand ["--", "--json", "-h", ""]
  have hperm : List.Perm [Given.json, .workspace (Path.ofText "w"), .logLevel "x"]
      [.logLevel "x", .workspace (Path.ofText "w"), .json] := by decide
  refine ⟨q, hread, harguments, (hshown (.workspace _)).mpr (by simp),
    (hshown (.logLevel _)).mpr (by simp), (hshown .json).mpr (by simp), ?_,
    hothers _ _ hperm hwords'⟩
  exact fun hverbose => absurd ((hshown .verbose).mp hverbose) (by simp)

end CommandLine

end ComponentBrowser
