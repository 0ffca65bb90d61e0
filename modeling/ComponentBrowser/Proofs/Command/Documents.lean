import ComponentBrowser.Command
import ComponentBrowser.Proofs.Catalog.Agreement
import ComponentBrowser.Proofs.Json.Printing

/-!
# ComponentBrowser.Proofs.Command.Documents

What the commands answer as JSON.  A prompt and a listing are each one document
with a line break behind it; reading it gives back what was asked for and what
was found, whatever the topic and the sizes are.

* `answer_prompt_json` — the members of a prompt's document, and its line breaks;
* `Listing.ofJson?_toJson` — a listed component is read back;
* `answer_list_json` — the document of a listing tells the same as its text.
-/

namespace ComponentBrowser

/-! ## prompts -/

namespace Prompt

theorem text_ne_fallback : ∀ entry ∈ table, entry.2 ≠ fallback := by decide

/-- Exactly the unknown topics get the general prompt. -/
theorem text_resolve_eq_fallback_iff (topic : String) :
    (resolve topic).text = fallback ↔ topic ∉ topics := by
  constructor
  · rintro h hknown
    obtain ⟨entry, hentry, rfl⟩ := List.mem_map.mp hknown
    rw [resolve_of_mem_table hentry] at h
    exact text_ne_fallback entry hentry h
  · intro hunknown
    have hfallback := (isFallback_resolve_iff topic).mpr hunknown
    rw [resolve] at hfallback ⊢
    cases hlookup : table.lookup topic with
    | none => rfl
    | some text =>
        rw [hlookup] at hfallback
        contradiction

theorem topic_resolve (topic : String) : (resolve topic).topic = topic := by
  unfold resolve
  split <;> rfl

theorem toJson_resolve (topic : String) :
    (resolve topic).toJson =
      .object [("topic", .string topic), ("prompt", .string (resolve topic).text),
        ("fallback", .bool (resolve topic).isFallback)] := by
  rw [toJson, topic_resolve]

theorem fits_toJson (p : Prompt) : p.toJson.Fits := by
  refine .object ?_
  simp only [List.forall_mem_cons]
  exact ⟨.string _, .string _, .bool _, nofun⟩

/-- The document of a prompt has four line breaks, and no other control
characters. -/
theorem controls_pretty_toJson (p : Prompt) :
    Json.controls p.toJson.pretty.toList = List.replicate 4 '\n' := by
  rw [Json.pretty, String.toList_ofList]
  cases h : p.isFallback <;>
    simp [toJson, h, Json.prettyText, Json.prettyMembers, Json.prettyMember, List.replicate]

end Prompt

/-! ## listings -/

namespace Json

/-- The natural number that a value is. -/
def natural? : Json → Option Nat
  | .number (.integer n) => n.toNat?
  | _ => none

/-- The text that a value is. -/
def text? : Json → Option String
  | .string s => some s
  | _ => none

/-- What a value is, unless it is `null`. -/
def nullable? {α : Type} (read? : Json → Option α) : Json → Option (Option α)
  | .null => some none
  | v => (read? v).map some

end Json

/-- The sizes that a file system tells fit 64 bits. -/
def FileSystem.SizesFit (fs : FileSystem) : Prop :=
  ∀ p size, fs.size? p = some size → size < 2 ^ 64

namespace Listing

/-- The listed component that a JSON object describes. -/
def ofJson? (v : Json) : Option Listing := do
  let index ← (← v.member? "index").natural?
  let filename ← (← v.member? "filename").text?
  let description ← (← v.member? "description").text?
  let size? ← (← v.member? "sizeBytes").nullable? Json.natural?
  pure ⟨index, filename, description, size?⟩

/-- A listed component reads back. -/
theorem ofJson?_toJson (l : Listing) : ofJson? l.toJson = some l := by
  obtain ⟨index, filename, description, size?⟩ := l
  cases size? <;>
    simp [ofJson?, toJson, Json.member?, List.lookup_cons, Json.natural?, Json.text?,
      Json.nullable?, Json.ofNat, Int.toNat?]

theorem mapM_ofJson?_toJson (ls : List Listing) : (ls.map toJson).mapM ofJson? = some ls := by
  induction ls with
  | nil => rfl
  | cons l ls ih => simp [List.mapM_cons, ofJson?_toJson, ih]

theorem fits_toJson {l : Listing} (hindex : l.index < 2 ^ 64)
    (hsize : ∀ size ∈ l.size?, size < 2 ^ 64) : l.toJson.Fits := by
  obtain ⟨index, filename, description, size?⟩ := l
  refine .object ?_
  simp only [List.forall_mem_cons]
  refine ⟨Json.fits_ofNat hindex, .string _, .string _, ?_, nofun⟩
  cases size? with
  | none => exact .null
  | some size => exact Json.fits_ofNat (hsize size rfl)

theorem fits_listToJson_all {fs : FileSystem} (hfs : fs.SizesFit) (workspace : Path) :
    (listToJson (all fs workspace)).Fits := by
  refine .array fun v hv => ?_
  obtain ⟨l, hl, rfl⟩ := List.mem_map.mp hv
  obtain ⟨i, hi⟩ := List.mem_iff_getElem?.mp hl
  rw [getElem?_all, Option.map_eq_some_iff] at hi
  obtain ⟨c, hc, rfl⟩ := hi
  have hlt : i < Component.catalog.length := (List.getElem?_eq_some_iff.mp hc).1
  rw [Component.length_catalog] at hlt
  exact fits_toJson (Nat.lt_trans hlt (by decide)) fun size hsize => hfs _ size hsize

end Listing

namespace Command

/-- **A prompt as JSON** is one document and a line break, whatever the topic
holds.  It has three members: the topic as it was asked for, its prompt, and
whether that is the general one, as it is for exactly the unknown topics.  The
text has five line breaks and no other control characters. -/
theorem answer_prompt_json (fs : FileSystem) (s : Settings) (topic : String) :
    ∃ (document : String) (members : List (String × Json)) (isFallback : Bool),
      answer fs s true (.prompt topic) = .ok (document ++ "\n") ∧
      Json.Document (.object members) document ∧
      Json.parse? document = some (.object members) ∧
      members = [("topic", .string topic), ("prompt", .string (Prompt.resolve topic).text),
        ("fallback", .bool isFallback)] ∧
      (isFallback = true ↔ topic ∉ Prompt.topics) ∧
      (topic ∉ Prompt.topics ↔ (Prompt.resolve topic).text = Prompt.fallback) ∧
      Json.controls (document ++ "\n").toList = List.replicate 5 '\n' := by
  have hfits := (Prompt.resolve topic).fits_toJson
  have hdocument := Json.document_pretty hfits
  have hread := Json.parse?_pretty hfits
  have hcontrols := (Prompt.resolve topic).controls_pretty_toJson
  rw [Prompt.toJson_resolve] at hdocument hread hcontrols
  refine ⟨_, _, _, ?_, hdocument, hread, rfl, Prompt.isFallback_resolve_iff topic,
    (Prompt.text_resolve_eq_fallback_iff topic).symm, ?_⟩
  · rw [answer, promptText, if_pos rfl, jsonText, Prompt.toJson_resolve]
  · rw [String.toList_append, Json.controls_append, hcontrols]
    rfl

/-- **A listing as JSON** is one document and a line break, which tells the same
as the text: an array of the catalog in its order, each with the exact size of
its file or `null`.  What is read back from it is what was found, and the text
is that of what is read back. -/
theorem answer_list_json {fs : FileSystem} (hfs : fs.SizesFit) (s : Settings) :
    ∃ (document : String) (items : List Json),
      answer fs s true .list = .ok (document ++ "\n") ∧
      Json.Document (.array items) document ∧
      Json.parse? document = some (.array items) ∧
      (∀ i, items[i]? = Component.catalog[i]?.map fun c =>
        Json.object [("index", .ofNat i), ("filename", .string c.filename),
          ("description", .string c.description),
          ("sizeBytes", match fs.size? (Component.pathIn s.workspace c.filename) with
            | none => .null
            | some size => .ofNat size)]) ∧
      items.mapM Listing.ofJson? = some (Listing.all fs s.workspace) ∧
      ∀ ls, items.mapM Listing.ofJson? = some ls →
        answer fs s false .list = .ok (Listing.render ls) := by
  have hfits := Listing.fits_listToJson_all hfs s.workspace
  have hback := Listing.mapM_ofJson?_toJson (Listing.all fs s.workspace)
  refine ⟨_, _, rfl, Json.document_pretty hfits, Json.parse?_pretty hfits, fun i => ?_, hback,
    fun ls hls => ?_⟩
  · rw [List.getElem?_map, Listing.getElem?_all, Option.map_map]
    refine congrArg (Option.map · _) (funext fun c => ?_)
    cases h : fs.size? (Component.pathIn s.workspace c.filename) <;>
      simp [Listing.of, Listing.toJson, h]
  · obtain rfl := Option.some.inj (hback.symm.trans hls)
    rfl

/-- A workspace with a file of the greatest size, an empty one, and no others. -/
def extremes : FileSystem where
  currentDirectory := Path.ofText "/"
  entry? p :=
    if p = Path.ofText "w/00_COMPONENT_OVERVIEW.txt" then some (.unreadable (2 ^ 64 - 1) .denied)
    else if p = Path.ofText "w/21_universal_header.txt" then some (.file [])
    else none

theorem sizesFit_extremes : extremes.SizesFit := by
  intro p size h
  obtain ⟨entry, hentry, rfl⟩ := Option.map_eq_some_iff.mp h
  dsimp only [extremes] at hentry
  split at hentry
  · cases hentry
    decide
  · split at hentry
    · cases hentry
      decide
    · cases hentry

/-- The greatest size is exact, and an empty file is told from a missing one. -/
theorem answer_list_json_extremes :
    ∃ (document : String) (items : List Json),
      answer extremes ⟨Path.ofText "w", none, none, false, false, 5000⟩ true .list =
        .ok (document ++ "\n") ∧
      Json.parse? document = some (.array items) ∧
      items[0]?.bind (Json.member? "sizeBytes") = some (.ofNat 18446744073709551615) ∧
      items[1]?.bind (Json.member? "sizeBytes") = some (.ofNat 0) ∧
      items[2]?.bind (Json.member? "sizeBytes") = some .null := by
  obtain ⟨document, items, hanswer, -, hread, hitems, -⟩ :=
    answer_list_json sizesFit_extremes ⟨Path.ofText "w", none, none, false, false, 5000⟩
  refine ⟨document, items, hanswer, hread, ?_, ?_, ?_⟩
  · rw [hitems]
    rfl
  · rw [hitems]
    rfl
  · rw [hitems]
    rfl

end Command

end ComponentBrowser
