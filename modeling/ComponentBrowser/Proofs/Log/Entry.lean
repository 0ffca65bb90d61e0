import ComponentBrowser.Log.Filter
import ComponentBrowser.Proofs.Text.Quoted

/-!
# ComponentBrowser.Proofs.Log.Entry

The log as it is written: entries, each with a line break behind it.

The line of an event is its message between the level, the span and the target
in front and the fields behind.  An event is *framed* if these are visible, as
they are when the values of its fields are quoted texts and numbers; then its
line breaks where its message does and nowhere else.  An event is *plain* if its
message is visible as well.

* `Event.Framed.exists_line_eq` — the message of a framed event between visible
  texts;
* `Event.Framed.newline_mem_line_iff` — where the line of a framed event breaks;
* `Event.Plain.allVisible_line` — the line of a plain event is visible;
* `count_newline_written_eq_iff` — one line for each entry.
-/

namespace ComponentBrowser.Log

open Text (AllVisible isVisible)

/-! ## messages -/

theorem isVisible_of_mem_messageChar {c d : Char} (hc : isVisible c = true)
    (hd : d ∈ messageChar c) : isVisible d = true := by
  unfold messageChar at hd
  repeat' split at hd
  iterate 5
    · exact List.all_eq_true.mp (by decide) d hd
  · exact Text.isVisible_of_mem_codePointEscape hd
  · rw [List.mem_singleton.mp hd]
    exact hc

theorem allVisible_messageText {s : String} (h : AllVisible s) : AllVisible (messageText s) := by
  intro d hd
  rw [messageText, String.toList_ofList] at hd
  obtain ⟨c, hc, hd⟩ := List.mem_flatMap.mp hd
  exact isVisible_of_mem_messageChar (h c hc) hd

/-- A line break is not among the characters that a message has escapes for. -/
theorem newline_mem_messageChar_iff (c : Char) : '\n' ∈ messageChar c ↔ c = '\n' := by
  constructor
  · intro h
    unfold messageChar at h
    repeat' split at h
    iterate 5
      · exact absurd h (by decide)
    · exact absurd (Text.isVisible_of_mem_codePointEscape h) (by decide)
    · exact (List.mem_singleton.mp h).symm
  · rintro rfl
    decide

theorem newline_mem_messageText_iff (s : String) :
    '\n' ∈ (messageText s).toList ↔ '\n' ∈ s.toList := by
  rw [messageText, String.toList_ofList, List.mem_flatMap]
  simp only [newline_mem_messageChar_iff, exists_eq_right]

/-! ## lines -/

/-- What stands in the line of an event around the message is visible. -/
structure Event.Framed (e : Event) : Prop where
  target : AllVisible e.target
  fields : ∀ field ∈ e.fields, AllVisible field.1 ∧ AllVisible field.2

/-- All that an event tells is visible. -/
structure Event.Plain (e : Event) : Prop extends Event.Framed e where
  message : AllVisible e.message

/-- A span with visible names is visible, whatever its fields hold. -/
theorem Span.allVisible_header {s : Span} (hname : AllVisible s.name)
    (hfields : ∀ field ∈ s.fields, AllVisible field.1) : AllVisible s.header := by
  have hvalues : ∀ t ∈ s.fields.map (fun field => field.1 ++ "=" ++ Text.quoted field.2),
      AllVisible t := by
    intro t ht
    obtain ⟨field, hfield, rfl⟩ := List.mem_map.mp ht
    exact Text.allVisible_enclosed (hfields field hfield) (by decide) (Text.allVisible_quoted _)
  rw [header]
  simp only [Text.allVisible_append]
  exact ⟨⟨⟨hname, by decide⟩, Text.allVisible_intercalate (by decide) hvalues⟩, by decide⟩

namespace Event

variable {e : Event} {span? : Option Span}

/-- The line of a framed event is the message between visible texts. -/
theorem Framed.exists_line_eq (h : e.Framed) (hspan : ∀ s ∈ span?, AllVisible s.header) :
    ∃ front back, AllVisible front ∧ AllVisible back ∧
      e.line span? = front ++ messageText e.message ++ back := by
  have hlevel : AllVisible e.level.name := by cases e.level <;> decide
  have hheader : AllVisible ((span?.map Span.header).getD "") := by
    cases span? with
    | none => decide
    | some s => exact hspan s rfl
  have hback : ∀ t ∈ e.fields.map (fun field => " " ++ field.1 ++ "=" ++ field.2),
      AllVisible t := by
    intro t ht
    obtain ⟨field, hfield, rfl⟩ := List.mem_map.mp ht
    obtain ⟨hname, hvalue⟩ := h.fields field hfield
    simp only [Text.allVisible_append]
    exact ⟨⟨⟨by decide, hname⟩, by decide⟩, hvalue⟩
  refine ⟨_, _, ?_, Text.allVisible_join hback, rfl⟩
  simp only [Text.allVisible_append]
  exact ⟨⟨⟨⟨hlevel, by decide⟩, hheader⟩, h.target⟩, by decide⟩

/-- The line of a framed event breaks where the message does. -/
theorem Framed.newline_mem_line_iff (h : e.Framed) (hspan : ∀ s ∈ span?, AllVisible s.header) :
    '\n' ∈ (e.line span?).toList ↔ '\n' ∈ e.message.toList := by
  obtain ⟨front, back, hfront, hback, hline⟩ := h.exists_line_eq hspan
  rw [hline, String.toList_append, String.toList_append, List.mem_append, List.mem_append,
    newline_mem_messageText_iff]
  simp [hfront.newline_not_mem, hback.newline_not_mem]

theorem Plain.of_noFields {level : Level} {target message : String}
    (htarget : AllVisible target) (hmessage : AllVisible message) :
    Plain ⟨level, target, message, []⟩ :=
  ⟨⟨htarget, nofun⟩, hmessage⟩

theorem Plain.allVisible_line (h : e.Plain) (hspan : ∀ s ∈ span?, AllVisible s.header) :
    AllVisible (e.line span?) := by
  obtain ⟨front, back, hfront, hback, hline⟩ := h.toFramed.exists_line_eq hspan
  rw [hline]
  exact Text.allVisible_enclosed hfront (allVisible_messageText h.message) hback

end Event

/-! ## entries -/

/-- An event with the span that it stands in. -/
structure Report where
  span? : Option Span
  event : Event
  deriving DecidableEq

namespace Filter

/-- Whether a filter lets a report through. -/
def passes (f : Filter) (r : Report) : Bool := f.admits r.span? r.event

/-- A report as the log shows it. -/
def entry (f : Filter) (r : Report) : String := r.event.line (r.span?.filter f.opens)

theorem lines_eq (f : Filter) (span? : Option Span) (events : List Event) :
    f.lines span? events = ((events.map (Report.mk span?)).filter f.passes).map f.entry := by
  rw [lines, List.filter_map, List.map_map]
  rfl

/-- An entry shows the span that the event stands in, or none. -/
theorem allVisible_header_of_mem_filter (f : Filter) {span? : Option Span}
    (hspan : ∀ s ∈ span?, AllVisible s.header) :
    ∀ s ∈ span?.filter f.opens, AllVisible s.header :=
  fun s hs => hspan s (Option.mem_filter_iff.mp hs).1

end Filter

/-! ## the written log -/

/-- Entries as they are written, each with a line break behind it. -/
def written (entries : List String) : String := String.join (entries.map (· ++ "\n"))

theorem count_newline_written (entries : List String) :
    (written entries).toList.count '\n' =
      entries.length + (String.join entries).toList.count '\n' := by
  induction entries with
  | nil => rfl
  | cons entry rest ih =>
      have hwritten : (written (entry :: rest)).toList =
          entry.toList ++ '\n' :: (written rest).toList := by
        simp [written]
      have hjoin : (String.join (entry :: rest)).toList =
          entry.toList ++ (String.join rest).toList := by
        simp
      rw [hwritten, hjoin, List.count_append, List.count_append, List.count_cons_self, ih,
        List.length_cons]
      omega

/-- The written log has one line for each entry exactly if no entry holds a line
break. -/
theorem count_newline_written_eq_iff (entries : List String) :
    (written entries).toList.count '\n' = entries.length ↔
      ∀ entry ∈ entries, '\n' ∉ entry.toList := by
  rw [count_newline_written, Nat.add_eq_left, List.count_eq_zero, String.toList_join]
  simp only [List.mem_flatMap, not_exists, not_and]

end ComponentBrowser.Log
