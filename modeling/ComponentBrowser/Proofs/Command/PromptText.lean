import ComponentBrowser.Proofs.Command.Documents
import Mathlib.Data.List.Nodup

/-!
# ComponentBrowser.Proofs.Command.PromptText

A prompt as text is read in one way only.  The topic stands in the header as it
was asked for: it may hold line breaks, rules, and whole prompts with their
headers, so the front of the text does not tell where the header ends.  The back
does, since no prompt is the end of another.

* `Prompt.eq_of_suffix` — the prompts there are, told from each other at the end;
* `exists_promptText_eq_iff` — the text ends in the prompt for its topic and in
  no other;
* `promptText_inj` — the text tells the topic;
* `answer_prompt_text` — both, of what the command answers.
-/

namespace ComponentBrowser

theorem Section.header_injective {title title' : String}
    (h : Section.header title = Section.header title') : title = title' := by
  rw [header, header] at h
  have hrule := (String.append_left_inj _).mp h
  have hbreak := (String.append_left_inj _).mp hrule
  have htitle := (String.append_left_inj _).mp hbreak
  exact (String.append_right_inj _).mp htitle

namespace Prompt

/-- The texts that prompts have: the general one and the registered ones. -/
def texts : List String := fallback :: table.map (·.2)

theorem text_resolve_mem_texts (topic : String) : (resolve topic).text ∈ texts := by
  by_cases hknown : topic ∈ topics
  · obtain ⟨entry, hentry, rfl⟩ := List.mem_map.mp hknown
    rw [resolve_of_mem_table hentry]
    exact List.mem_cons_of_mem _ (List.mem_map_of_mem hentry)
  · rw [(text_resolve_eq_fallback_iff topic).mpr hknown]
    exact List.mem_cons_self

/-! ## the ends of prompts -/

/-- The last lines of the prompts, in the order of `texts`. -/
def lastLines : List String :=
  [fallback, "6. Performance characteristics", "6. Performance considerations and tuning",
    "6. Performance implications", "6. Durability guarantees",
    "5. Key algorithms for space management within pages", "6. Commit and rollback processes"]

theorem exists_eq_append_lastLine :
    ∀ entry ∈ texts.zip lastLines, ∃ front, entry.1 = front ++ entry.2 := by
  simp only [texts, table, lastLines, List.map_cons, List.map_nil, List.zip_cons_cons,
    List.zip_nil_right, List.forall_mem_cons]
  exact ⟨⟨"", String.empty_append.symm⟩, ⟨_, rfl⟩, ⟨_, rfl⟩, ⟨_, rfl⟩, ⟨_, rfl⟩, ⟨_, rfl⟩,
    ⟨_, rfl⟩, nofun⟩

/-- No last line is the end of another. -/
theorem eq_of_lastLine_suffix :
    ∀ line ∈ lastLines, ∀ line' ∈ lastLines, line.toList <:+ line'.toList → line = line' := by
  decide +kernel

theorem exists_lastLine {text : String} (h : text ∈ texts) :
    ∃ line, (text, line) ∈ texts.zip lastLines ∧ line.toList <:+ text.toList := by
  have hlength : texts.length ≤ lastLines.length := by decide
  rw [← List.map_fst_zip hlength] at h
  obtain ⟨⟨_, line⟩, hentry, rfl⟩ := List.mem_map.mp h
  obtain ⟨front, hfront⟩ := exists_eq_append_lastLine _ hentry
  exact ⟨line, hentry, front.toList, by rw [← String.toList_append, ← hfront]⟩

/-- A prompt is told by its last line. -/
theorem eq_of_lastLine_eq {text text' line : String} (h : (text, line) ∈ texts.zip lastLines)
    (h' : (text', line) ∈ texts.zip lastLines) : text = text' := by
  have hnodup : ((texts.zip lastLines).map Prod.snd).Nodup := by decide
  exact congrArg Prod.fst (List.inj_on_of_nodup_map hnodup h h' rfl)

/-- No prompt is the end of another. -/
theorem eq_of_suffix {text text' : String} (h : text ∈ texts) (h' : text' ∈ texts)
    (hsuffix : text.toList <:+ text'.toList) : text = text' := by
  obtain ⟨line, hentry, hline⟩ := exists_lastLine h
  obtain ⟨line', hentry', hline'⟩ := exists_lastLine h'
  have hmem : line ∈ lastLines := (List.of_mem_zip hentry).2
  have hmem' : line' ∈ lastLines := (List.of_mem_zip hentry').2
  have hsame : line = line' := by
    rcases List.suffix_or_suffix_of_suffix (hline.trans hsuffix) hline' with hends | hends
    · exact eq_of_lastLine_suffix line hmem line' hmem' hends
    · exact (eq_of_lastLine_suffix line' hmem' line hmem hends).symm
  subst hsame
  exact eq_of_lastLine_eq hentry hentry'

/-- Two prompts at the end of one text are the same. -/
theorem eq_of_append_eq {front front' text text' : String} (htext : text ∈ texts)
    (htext' : text' ∈ texts) (h : front ++ text = front' ++ text') : text = text' := by
  have hend : text.toList <:+ (front ++ text).toList := by simp
  have hend' : text'.toList <:+ (front ++ text).toList := by simp [h]
  rcases List.suffix_or_suffix_of_suffix hend hend' with hsuffix | hsuffix
  · exact eq_of_suffix htext htext' hsuffix
  · exact (eq_of_suffix htext' htext hsuffix).symm

end Prompt

namespace Command

theorem promptText_resolve (topic : String) :
    promptText (Prompt.resolve topic) false =
      Section.header ("ANALYSIS PROMPT FOR: " ++ topic) ++ (Prompt.resolve topic).text ++ "\n" := by
  rw [promptText, Prompt.topic_resolve]
  rfl

/-- The text of a prompt ends in the prompt for its topic, and in no other. -/
theorem exists_promptText_eq_iff (topic : String) {text : String} (htext : text ∈ Prompt.texts) :
    (∃ front, promptText (Prompt.resolve topic) false = front ++ text ++ "\n") ↔
      text = (Prompt.resolve topic).text := by
  rw [promptText_resolve]
  constructor
  · rintro ⟨front, h⟩
    have hends := (String.append_left_inj _).mp h
    exact (Prompt.eq_of_append_eq (Prompt.text_resolve_mem_texts topic) htext hends).symm
  · rintro rfl
    exact ⟨_, rfl⟩

/-- The text of a prompt tells its topic. -/
theorem promptText_inj {topic topic' : String}
    (h : promptText (Prompt.resolve topic) false = promptText (Prompt.resolve topic') false) :
    topic = topic' := by
  have hsame : (Prompt.resolve topic).text = (Prompt.resolve topic').text :=
    (exists_promptText_eq_iff topic' (Prompt.text_resolve_mem_texts topic)).mp
      ⟨_, h.symm.trans (promptText_resolve topic)⟩
  -- with one prompt behind both headers, these are the same
  rw [promptText_resolve, promptText_resolve, hsame] at h
  have hheaders := (String.append_left_inj _).mp ((String.append_left_inj _).mp h)
  exact (String.append_right_inj _).mp (Section.header_injective hheaders)

/-- **A prompt as text tells its topic.**  What is answered ends in the prompt
for the topic and a line break, in no other of the prompts there are, and
is answered for no other topic, whatever the topics hold; so an unknown topic
is never answered as a registered one is. -/
theorem answer_prompt_text (fs : FileSystem) (s : Settings) (topic : String) :
    ∃ output, answer fs s false (.prompt topic) = .ok output ∧
      (∃ front, output = front ++ (Prompt.resolve topic).text ++ "\n") ∧
      (∀ text ∈ Prompt.texts, text ≠ (Prompt.resolve topic).text →
        ∀ front, output ≠ front ++ text ++ "\n") ∧
      (∀ fs' s' topic', answer fs' s' false (.prompt topic') = .ok output ↔ topic' = topic) ∧
      (topic ∉ Prompt.topics → ∀ known ∈ Prompt.topics, ∀ fs' s',
        answer fs' s' false (.prompt known) ≠ .ok output) := by
  have htold : ∀ fs' s' topic', answer fs' s' false (.prompt topic') =
      .ok (promptText (Prompt.resolve topic) false) ↔ topic' = topic := by
    intro fs' s' topic'
    rw [answer, Except.ok.injEq]
    exact ⟨promptText_inj, fun h => by rw [h]⟩
  refine ⟨_, rfl, ?_, ?_, htold, ?_⟩
  · exact (exists_promptText_eq_iff topic (Prompt.text_resolve_mem_texts topic)).mpr rfl
  · intro text htext hne front h
    exact hne ((exists_promptText_eq_iff topic htext).mp ⟨front, h⟩)
  · intro hunknown known hknown fs' s' h
    rw [(htold fs' s' known).mp h] at hknown
    exact hunknown hknown

/-- A topic that goes on like the answer for another, up to its whole prompt. -/
def imitatingTopic : String := "btree\n" ++ Section.rule ++ "\n" ++ (Prompt.resolve "btree").text

/-- The imitation is answered with the general prompt behind the imitated one,
and not as the topic that it imitates. -/
theorem answer_prompt_text_imitating :
    let fs : FileSystem := ⟨Path.ofText "/", fun _ => none⟩
    let s : Settings := ⟨Path.ofText "w", none, none, false, false, 1⟩
    ∃ output, answer fs s false (.prompt imitatingTopic) = .ok output ∧
      (∀ front, output ≠ front ++ (Prompt.resolve "btree").text ++ "\n") ∧
      answer fs s false (.prompt "btree") ≠ .ok output := by
  intro fs s
  obtain ⟨output, houtput, -, hends, -, hother⟩ := answer_prompt_text fs s imitatingTopic
  have hunknown : imitatingTopic ∉ Prompt.topics := by decide +kernel
  have hgeneral := (Prompt.text_resolve_eq_fallback_iff _).mpr hunknown
  refine ⟨output, houtput, hends _ (Prompt.text_resolve_mem_texts _) ?_,
    hother hunknown "btree" (by decide) fs s⟩
  rw [hgeneral]
  decide

end Command

end ComponentBrowser
