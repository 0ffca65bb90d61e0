import ComponentBrowser.Json.Value
import ComponentBrowser.Log.Event

/-!
# ComponentBrowser.Prompt

Prompts for the analysis of a component, by topic.  Every topic has one: what
the table does not know gets a general prompt.

* `resolve_of_mem_table` — a registered topic gets its own prompt;
* `isFallback_resolve_iff` — the general one is for the others.
-/

namespace ComponentBrowser

/-- The prompt that answers a topic. -/
structure Prompt where
  /-- The topic, as it was asked for. -/
  topic : String
  text : String
  /-- Whether the topic is unknown and the text therefore general. -/
  isFallback : Bool
  deriving DecidableEq, Repr

namespace Prompt

/-- The prompt for topics without one of their own. -/
def fallback : String :=
  "Analyze this code and explain its key concepts, algorithms, and implementation details."

/-- The registered topics and their prompts, sorted by topic. -/
def table : List (String × String) :=
  [("btree",
    "Analyze this B+ tree implementation and explain:\n" ++
      "1. The B+ tree structure and node types\n" ++
      "2. Search, insert, and delete algorithms\n" ++
      "3. Page split and merge operations\n" ++
      "4. Pessimistic vs optimistic operations\n" ++
      "5. Cursor types and their use cases\n" ++
      "6. Performance characteristics"),
   ("buffer_pool",
    "Analyze this buffer pool implementation and explain:\n" ++
      "1. How the buffer pool manages pages in memory\n" ++
      "2. The LRU algorithm implementation and optimizations\n" ++
      "3. The flush list and dirty page management\n" ++
      "4. Page hash table for lookups\n" ++
      "5. Read-ahead mechanisms\n" ++
      "6. Performance considerations and tuning"),
   ("locking",
    "Analyze this locking system and explain:\n" ++
      "1. Lock types and granularities\n" ++
      "2. Lock compatibility matrix\n" ++
      "3. Next-key locking algorithm\n" ++
      "4. Deadlock detection mechanism\n" ++
      "5. Lock wait handling\n" ++
      "6. Performance implications"),
   ("logging",
    "Analyze this logging system and explain:\n" ++
      "1. Redo log structure and format\n" ++
      "2. LSN (Log Sequence Number) mechanism\n" ++
      "3. Checkpoint algorithm\n" ++
      "4. Recovery process phases\n" ++
      "5. Log buffer management\n" ++
      "6. Durability guarantees"),
   ("page_management",
    "Analyze this InnoDB page management code and explain:\n" ++
      "1. The exact structure of a 16KB page (header, records, free space, directory, trailer)\n" ++
      "2. How records are organized within a page\n" ++
      "3. The page cursor mechanism for navigation\n" ++
      "4. Different page types and their purposes\n" ++
      "5. Key algorithms for space management within pages"),
   ("transaction",
    "Analyze this transaction system and explain:\n" ++
      "1. How MVCC is implemented\n" ++
      "2. Transaction lifecycle and states\n" ++
      "3. Read view creation and visibility rules\n" ++
      "4. Undo log structure and usage\n" ++
      "5. Isolation level implementation\n" ++
      "6. Commit and rollback processes")]

/-- The registered topics, sorted. -/
def topics : List String := table.map (·.1)

/-- The prompt for a topic. -/
def resolve (topic : String) : Prompt :=
  match table.lookup topic with
  | some text => ⟨topic, text, false⟩
  | none => ⟨topic, fallback, true⟩

/-- A prompt as a JSON object. -/
def toJson (p : Prompt) : Json :=
  .object [("topic", .string p.topic), ("prompt", .string p.text), ("fallback", .bool p.isFallback)]

/-- What is reported when a topic is looked up: unknown ones, with the topics
there are. -/
def reported (p : Prompt) : List Log.Event :=
  if p.isFallback then
    [{ level := .debug
       target := "analyze_prompt::retriever"
       message := "No prompt registered, using generic prompt"
       fields :=
        [("topic", Text.quoted p.topic),
         ("known", "[" ++ ", ".intercalate (topics.map Text.quoted) ++ "]")] }]
  else []

/-! ## the table -/

theorem nodup_topics : topics.Nodup := by decide

theorem lookup_of_mem {entries : List (String × String)} {entry : String × String}
    (hnodup : (entries.map (·.1)).Nodup) (h : entry ∈ entries) :
    entries.lookup entry.1 = some entry.2 := by
  induction entries with
  | nil => simp at h
  | cons first rest ih =>
    obtain ⟨key, text⟩ := first
    rw [List.map_cons, List.nodup_cons] at hnodup
    rcases List.mem_cons.1 h with rfl | h
    · simp
    · have hne : entry.1 ≠ key := fun e =>
        hnodup.1 (e ▸ List.mem_map_of_mem (f := (·.1)) h)
      simpa [List.lookup_cons, beq_false_of_ne hne] using ih hnodup.2 h

theorem resolve_of_mem_table {entry : String × String} (h : entry ∈ table) :
    resolve entry.1 = ⟨entry.1, entry.2, false⟩ := by
  rw [resolve, lookup_of_mem nodup_topics h]

theorem isFallback_resolve_iff (topic : String) : (resolve topic).isFallback ↔ topic ∉ topics := by
  have h : table.lookup topic = none ↔ topic ∉ topics := by
    simp only [List.lookup_eq_none_iff, topics, List.mem_map, not_exists, not_and, bne_iff_ne]
    exact ⟨fun h p hp e => h p hp e.symm, fun h p hp e => h p hp e.symm⟩
  rw [← h, resolve]
  cases table.lookup topic <;> simp

end Prompt

end ComponentBrowser
