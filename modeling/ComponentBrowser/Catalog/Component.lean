/-!
# ComponentBrowser.Catalog.Component

The catalog of component write-ups.  Its order is the order of display and
fixes the index by which a component is asked for; the overview comes first.
-/

namespace ComponentBrowser

/-- A write-up in the catalog. -/
structure Component where
  /-- The name of its file in the workspace. -/
  filename : String
  /-- One line about it. -/
  description : String
  deriving DecidableEq, Repr

namespace Component

/-- The catalog, in the order of display. -/
def catalog : List Component :=
  [⟨"00_COMPONENT_OVERVIEW.txt", "Overview and reading guide"⟩,
   ⟨"21_universal_header.txt", "Global definitions and constants"⟩,
   ⟨"01_page_management.txt", "16KB page structure - fundamental storage unit"⟩,
   ⟨"02_file_tablespace_management.txt", "File and tablespace organization"⟩,
   ⟨"03_buffer_pool.txt", "In-memory page caching"⟩,
   ⟨"05_record_data_formats.txt", "Record formats and data types"⟩,
   ⟨"04_btree_index.txt", "B+ tree implementation"⟩,
   ⟨"06_mini_transactions.txt", "Atomic operations (MTR)"⟩,
   ⟨"07_logging_recovery.txt", "Write-ahead logging and recovery"⟩,
   ⟨"08_transaction_system.txt", "ACID and MVCC implementation"⟩,
   ⟨"09_locking_system.txt", "Concurrency control"⟩,
   ⟨"10_row_operations.txt", "Insert, update, delete, select"⟩,
   ⟨"11_data_dictionary.txt", "Schema and metadata management"⟩,
   ⟨"12_query_processing.txt", "SQL-like query execution"⟩,
   ⟨"13_insert_buffer.txt", "Change buffering optimization"⟩,
   ⟨"14_adaptive_hash_index.txt", "Hash index optimization"⟩,
   ⟨"15_synchronization.txt", "Thread coordination primitives"⟩,
   ⟨"16_os_abstraction.txt", "Operating system abstraction"⟩,
   ⟨"17_memory_management.txt", "Custom memory allocators"⟩,
   ⟨"18_utilities.txt", "Common utility functions"⟩,
   ⟨"19_server_layer.txt", "Background threads and services"⟩,
   ⟨"20_api_layer.txt", "Public API for applications"⟩]

/-- The component with an index, counted from zero. -/
def withIndex? (index : Int) : Option Component :=
  if 0 ≤ index then catalog[index.toNat]? else none

/-- There are twenty-two components. -/
theorem length_catalog : catalog.length = 22 := rfl

/-- An index names a component exactly when it lies within the catalog. -/
theorem isSome_withIndex?_iff (index : Int) :
    (withIndex? index).isSome ↔ 0 ≤ index ∧ index < catalog.length := by
  unfold withIndex?
  split <;> simp [length_catalog] <;> omega

end Component

end ComponentBrowser
