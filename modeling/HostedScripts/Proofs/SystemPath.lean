import HostedScripts.SystemPath
import HostedScripts.Proofs.FileTree
import HostedScripts.Proofs.Path

/-! # What can be shown of paths

What is shown for the bytes of a text is the text (`Text.shown_toBytes`), so a path that is a text is known from
what is shown for it (`SystemPath.IsText.marked_eq`). Any absolute path is shown with the slash in front
(`SystemPath.shown_ne_of_isAbsolute`). -/

namespace HostedScripts

namespace Text

theorem toBytes_ofList (cs : List Char) : toBytes (String.ofList cs) = cs.flatMap String.utf8EncodeChar := by
  have hlist : toBytes (String.ofList cs) = (String.ofList cs).toByteArray.data.toList :=
    toList_loop (String.ofList cs).toByteArray 0 []
  rw [hlist, String.toByteArray_ofList]
  simp [List.utf8Encode]

theorem leading?_append (c : Char) (rest : List UInt8) :
    leading? (String.utf8EncodeChar c ++ rest) = some c := by
  have hbytes : ByteArray.mk (String.utf8EncodeChar c ++ rest).toArray =
      [c].utf8Encode ++ ByteArray.mk rest.toArray := by
    simp [List.utf8Encode, ByteArray.ext_iff]
  rw [leading?, hbytes]
  exact List.utf8DecodeChar?_utf8Encode_singleton_append

theorem shownFrom_of_leading {bytes : List UInt8} {c : Char} (h : leading? bytes = some c) (n : Nat) :
    shownFrom (n + 1) bytes = c :: shownFrom n (bytes.drop c.utf8Size) := by
  cases bytes with
  | nil => cases h
  | cons b bytes =>
    rw [shownFrom, h]

theorem shownFrom_flatMap {n : Nat} {cs : List Char} (hn : (cs.flatMap String.utf8EncodeChar).length ≤ n) :
    shownFrom n (cs.flatMap String.utf8EncodeChar) = cs := by
  induction cs generalizing n with
  | nil => cases n <;> rfl
  | cons c cs ih =>
    have hlength := String.length_utf8EncodeChar c
    have hpos := c.utf8Size_pos
    rw [List.flatMap_cons, List.length_append] at hn
    obtain ⟨n, rfl⟩ := Nat.exists_eq_succ_of_ne_zero (by omega : n ≠ 0)
    have hdrop : ((c :: cs).flatMap String.utf8EncodeChar).drop c.utf8Size =
        cs.flatMap String.utf8EncodeChar := by
      rw [List.flatMap_cons, ← hlength, List.drop_left]
    rw [List.flatMap_cons] at hdrop ⊢
    rw [shownFrom_of_leading (leading?_append c _), hdrop, ih (by omega)]

/-- **What is shown for a text is the text.** -/
theorem shown_toBytes (s : String) : shown (toBytes s) = s := by
  have hbytes := toBytes_ofList s.toList
  rw [String.ofList_toList] at hbytes
  rw [shown, hbytes, shownFrom_flatMap le_rfl, String.ofList_toList]

end Text

namespace SystemPath

variable {p : SystemPath}

/-- A path that is a text. -/
def IsText (p : SystemPath) : Prop := ∃ q : Path, p = ofPath q

/-- What is known of a path from the text that is shown for it. -/
def marked (p : SystemPath) : SystemPath := ofPath ⟨p.shown⟩

theorem shown_ofPath (q : Path) : (ofPath q).shown = q.text := Text.shown_toBytes q.text

theorem IsText.marked_eq (h : p.IsText) : p.marked = p := by
  obtain ⟨q, rfl⟩ := h
  rw [marked, shown_ofPath]

theorem isAbsolute_ofPath {q : Path} (h : q.isAbsolute = true) : (ofPath q).isAbsolute = true := by
  obtain ⟨cs, hcs⟩ := Path.isAbsolute_iff.mp h
  have hbytes := Text.toBytes_ofList q.text.toList
  rw [String.ofList_toList, hcs, List.flatMap_cons] at hbytes
  unfold isAbsolute ofPath
  rw [hbytes]
  rfl

/-- An absolute path is not taken for a word. -/
theorem shown_ne_of_isAbsolute (h : p.isAbsolute = true) : p.shown ≠ "NONE" := by
  obtain ⟨- | ⟨b, bytes⟩⟩ := p
  · cases h
  · obtain rfl : b = 0x2F := by simpa [isAbsolute] using h
    have hfirst : Text.leading? (0x2F :: bytes) = some '/' := Text.leading?_append '/' bytes
    have hchars : (shown ⟨0x2F :: bytes⟩).toList = '/' :: Text.shownFrom bytes.length bytes := by
      rw [shown, Text.shown, String.toList_ofList]
      exact Text.shownFrom_of_leading hfirst bytes.length
    intro hnone
    rw [hnone] at hchars
    cases hchars

end SystemPath

end HostedScripts
