import ComponentBrowser.Proofs.Catalog.Agreement
import ComponentBrowser.Proofs.Text.Segments
import ComponentBrowser.Proofs.Text.Utf8

/-!
# ComponentBrowser.Proofs.Catalog.Cutting

What a preview shows of a file.  It is cut by characters, so of a text it shows
the first ones, whole; of any other bytes it shows what the lenient reading
makes of them, and that is settled by four bytes for each character.

* `Preview.load_text` — the preview of a text, for every limit;
* `Preview.bounded_ofContent` — a preview shows no more than its limit, nor
  more than the file has bytes;
* `Preview.load_local` — what stands behind the first bytes does not show.
-/

namespace ComponentBrowser.Preview

/-- A component whose file can be read has a preview, whatever the limit. -/
theorem load_of_read {fs : FileSystem} {workspace : Path} {i : Nat}
    (hi : i < Component.catalog.length) {content : Bytes}
    (h : fs.read (Component.pathIn workspace Component.catalog[i].filename) = .ok content)
    (limit : Nat) :
    load fs workspace i limit = .ok (ofContent Component.catalog[i].filename content limit) :=
  load_of_read_eq_ok ((Component.withIndex?_natCast i).trans (List.getElem?_eq_getElem hi)) h limit

theorem truncated_ofContent_iff_lt (filename : String) (content : Bytes) (limit : Nat) :
    (ofContent filename content limit).truncated = true ↔
      limit < (Utf8.decode content).length :=
  decide_eq_true_iff

/-- A greater limit shows more of the same. -/
theorem text_ofContent_prefix (filename : String) (content : Bytes) {limit limit' : Nat}
    (h : limit ≤ limit') :
    (ofContent filename content limit).text.toList <+:
      (ofContent filename content limit').text.toList := by
  rw [toList_text_ofContent, toList_text_ofContent]
  exact List.take_prefix_take_left h

/-! ## texts -/

theorem toList_text_ofContent_ofText (filename text : String) (limit : Nat) :
    (ofContent filename (Bytes.ofText text) limit).text.toList = text.toList.take limit := by
  rw [toList_text_ofContent, Bytes.ofText, Utf8.decode_encode]

theorem truncated_ofContent_ofText (filename text : String) (limit : Nat) :
    (ofContent filename (Bytes.ofText text) limit).truncated = true ↔ limit < text.length := by
  rw [truncated_ofContent_iff_lt, Bytes.ofText, Utf8.decode_encode, String.length_toList]

/-- A text that is not cut is shown whole. -/
theorem text_ofContent_ofText (filename text : String) {limit : Nat}
    (h : (ofContent filename (Bytes.ofText text) limit).truncated = false) :
    (ofContent filename (Bytes.ofText text) limit).text = text := by
  rw [← Bool.not_eq_true, truncated_ofContent_ofText, Nat.not_lt, ← String.length_toList] at h
  rw [← String.toList_inj, toList_text_ofContent_ofText, List.take_of_length_le h]

/-- **The preview of a text** shows its first characters, as many as the limit
allows, and is cut exactly where the text goes on; the size is that of the
whole text in bytes.  With a greater limit it shows more of the same and is cut
less. -/
theorem load_text {fs : FileSystem} {workspace : Path} {i : Nat}
    (hi : i < Component.catalog.length) {text : String}
    (h : fs.read (Component.pathIn workspace Component.catalog[i].filename) =
      .ok (Bytes.ofText text)) :
    ∃ shown : Nat → Preview,
      (∀ limit, load fs workspace i limit = .ok (shown limit)) ∧
      (∀ limit,
        (shown limit).text.toList = text.toList.take (min limit text.length) ∧
        ((shown limit).truncated = true ↔ limit < text.length) ∧
        (shown limit).totalBytes = text.utf8ByteSize ∧
        ((shown limit).truncated = false →
          (shown limit).text = text ∧
          (shown limit).text.utf8ByteSize = (shown limit).totalBytes)) ∧
      ∀ limit limit', limit ≤ limit' →
        (shown limit).text.toList <+: (shown limit').text.toList ∧
        ((shown limit').truncated = true → (shown limit).truncated = true) := by
  refine ⟨_, load_of_read hi h, fun limit => ⟨?_, ?_, ?_, fun hwhole => ?_⟩,
    fun limit limit' hle => ⟨?_, fun hcut => ?_⟩⟩
  · rw [toList_text_ofContent_ofText, ← String.length_toList, List.take_eq_take_min]
  · exact truncated_ofContent_ofText _ text limit
  · exact Bytes.length_ofText text
  · have htext := text_ofContent_ofText _ text hwhole
    refine ⟨htext, ?_⟩
    rw [htext]
    exact (Bytes.length_ofText text).symm
  · exact text_ofContent_prefix _ _ hle
  · rw [truncated_ofContent_ofText] at hcut ⊢
    exact Nat.lt_of_le_of_lt hle hcut

/-- A file system with one file, the overview in the directory `w`. -/
def withOverview (content : Bytes) : FileSystem where
  currentDirectory := Path.ofText "/"
  entry? p := if p = Path.ofText "w/00_COMPONENT_OVERVIEW.txt" then some (.file content) else none

theorem read_withOverview (content : Bytes) :
    (withOverview content).read (Component.pathIn (Path.ofText "w") Component.catalog[0].filename) =
      .ok content := rfl

/-- Characters of one to four bytes, with a U+FFFD of the text's own. -/
theorem load_text_mixed :
    ∃ shown : Nat → Preview,
      (∀ limit, load (withOverview (Bytes.ofText "é\uFFFD𝄞z")) (Path.ofText "w") 0 limit =
        .ok (shown limit)) ∧
      (shown 3).text.toList = ['é', '\uFFFD', '𝄞'] ∧ (shown 3).truncated = true ∧
      (shown 4).truncated = false ∧ (shown 4).totalBytes = 10 := by
  obtain ⟨shown, hload, hshown, -⟩ :=
    load_text (by decide) (read_withOverview (Bytes.ofText "é\uFFFD𝄞z"))
  obtain ⟨htext, hcut, -⟩ := hshown 3
  obtain ⟨-, hwhole, hsize, -⟩ := hshown 4
  refine ⟨shown, hload, htext, hcut.mpr (by decide), ?_, hsize⟩
  rw [← Bool.not_eq_true, hwhole]
  decide

/-! ## any bytes -/

/-- A preview has at most as many characters as its limit allows and as its file
has bytes, and is cut only if the file has more bytes than that limit. -/
structure Bounded (p : Preview) (limit size : Nat) : Prop where
  length_le : p.text.length ≤ min limit size
  totalBytes_eq : p.totalBytes = size
  lt_of_truncated : p.truncated = true → limit < p.totalBytes

theorem bounded_ofContent (filename : String) (content : Bytes) (limit : Nat) :
    (ofContent filename content limit).Bounded limit content.length where
  length_le := by
    have hle := Utf8.length_decode_le content
    rw [← String.length_toList, toList_text_ofContent, List.length_take]
    omega
  totalBytes_eq := rfl
  lt_of_truncated hcut :=
    Nat.lt_of_lt_of_le ((truncated_ofContent_iff_lt filename content limit).mp hcut)
      (Utf8.length_decode_le content)

theorem text_ofContent_congr (filename filename' : String) {content content' : Bytes}
    {limit : Nat} (h : content.take (4 * limit) = content'.take (4 * limit)) :
    (ofContent filename content limit).text = (ofContent filename' content' limit).text := by
  rw [← String.toList_inj, toList_text_ofContent, toList_text_ofContent,
    Utf8.take_decode_congr h]

/-- **A preview is local and bounded**: two files that agree on their first
bytes, four for each character of the limit, show the same text, whatever they
hold behind them and whether or not they are texts.  Files that are shorter than
that agree only if they are equal. -/
theorem load_local {fs fs' : FileSystem} {workspace workspace' : Path} {i i' : Nat}
    (hi : i < Component.catalog.length) (hi' : i' < Component.catalog.length)
    {content content' : Bytes}
    (h : fs.read (Component.pathIn workspace Component.catalog[i].filename) = .ok content)
    (h' : fs'.read (Component.pathIn workspace' Component.catalog[i'].filename) = .ok content')
    (limit : Nat) (hagree : content.take (4 * limit) = content'.take (4 * limit)) :
    ∃ p p', load fs workspace i limit = .ok p ∧ load fs' workspace' i' limit = .ok p' ∧
      p.text = p'.text ∧ p.Bounded limit content.length ∧ p'.Bounded limit content'.length :=
  ⟨_, _, load_of_read hi h limit, load_of_read hi' h' limit, text_ofContent_congr _ _ hagree,
    bounded_ofContent _ content limit, bounded_ofContent _ content' limit⟩

/-- The fourth byte breaks off a sequence of four; the bytes behind it differ, and
so do the sizes. -/
theorem load_local_broken :
    ∃ p p',
      load (withOverview [0xF0, 0x9F, 0x98, 0x41]) (Path.ofText "w") 0 1 = .ok p ∧
      load (withOverview [0xF0, 0x9F, 0x98, 0x41, 0xFF, 0x80]) (Path.ofText "w") 0 1 = .ok p' ∧
      p.text = p'.text ∧ p.totalBytes = 4 ∧ p'.totalBytes = 6 := by
  obtain ⟨p, p', hp, hp', htext, hbounded, hbounded'⟩ :=
    load_local (by decide) (by decide) (read_withOverview [0xF0, 0x9F, 0x98, 0x41])
      (read_withOverview [0xF0, 0x9F, 0x98, 0x41, 0xFF, 0x80]) 1 rfl
  exact ⟨p, p', hp, hp', htext, hbounded.totalBytes_eq, hbounded'.totalBytes_eq⟩

end ComponentBrowser.Preview
