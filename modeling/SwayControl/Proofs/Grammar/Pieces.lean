import SwayControl.Proofs.Grammar.HeldText

/-!
Texts taken apart at the places of one character. Pieces that lack it are found again where they were
joined by it. One more piece may hold it and stand behind them if only the first places count, or in front
of them if only the last places do. An empty piece is a slot in which nothing stands.
-/

namespace SwayControl

/-- The pieces of a text between the places of a character. -/
def piecesAt (d : Char) (t : String) : List String := (t.toList.splitOn d).map String.ofList

/-- The pieces of a text between the first places of a character, of which at most some count. -/
def firstPieces (d : Char) (count : Nat) (t : String) : List String :=
  let pieces := piecesAt d t
  if pieces.length ≤ count then pieces
  else pieces.take count ++ [(String.singleton d).intercalate (pieces.drop count)]

/-- The pieces of a text between the last places of a character, of which at most some count. -/
def lastPieces (d : Char) (count : Nat) (t : String) : List String :=
  let pieces := piecesAt d t
  if pieces.length ≤ count then pieces
  else (String.singleton d).intercalate (pieces.take (pieces.length - count)) ::
    pieces.drop (pieces.length - count)

section

variable {d : Char} {separator : String} {first last : String} {pieces : List String}

/-- Pieces without a separator are found again when they were joined by it, if there is one at all. -/
theorem piecesAt_intercalate (hseparator : separator.toList = [d]) (hne : pieces ≠ [])
    (h : LacksEach d pieces) :
    piecesAt d (separator.intercalate pieces) = pieces := by
  have hpieces : ∀ cs ∈ pieces.map String.toList, d ∉ cs := by
    intro cs hcs
    obtain ⟨piece, hpiece, rfl⟩ := List.mem_map.mp hcs
    exact h piece hpiece
  have hne' : pieces.map String.toList ≠ [] := mt List.map_eq_nil_iff.mp hne
  rw [piecesAt, String.toList_intercalate, hseparator, List.splitOn_intercalate d hpieces hne',
    List.map_map]
  simp [Function.comp_def]

/-- A text that lacks a character is one piece. -/
theorem piecesAt_of_lacks {t : String} (h : Lacks d t) : piecesAt d t = [t] := by
  rw [piecesAt, List.splitOn_eq_singleton h, List.map_singleton, String.ofList_toList]

/-- Joining all pieces of a text gives it again. -/
theorem intercalate_piecesAt (d : Char) (t : String) :
    (String.singleton d).intercalate (piecesAt d t) = t := by
  apply String.toList_inj.mp
  rw [String.toList_intercalate, piecesAt, List.map_map]
  have hmap : (String.toList ∘ String.ofList) = id := funext fun cs => String.toList_ofList
  rw [hmap, List.map_id, String.toList_singleton, List.intercalate_splitOn]

theorem length_piecesAt_pos (d : Char) (t : String) : 0 < (piecesAt d t).length := by
  rw [piecesAt, List.length_map]
  exact List.length_pos_iff.mpr (List.splitOn_ne_nil d t.toList)

/-- A separator parts two texts whatever they hold. -/
theorem piecesAt_append (hseparator : separator.toList = [d]) (s t : String) :
    piecesAt d (s ++ separator ++ t) = piecesAt d s ++ piecesAt d t := by
  have hlist : (s ++ separator ++ t).toList = s.toList ++ d :: t.toList := by
    simp [String.toList_append, hseparator]
  rw [piecesAt, hlist, List.splitOn_append_cons_self, List.map_append]
  rfl

theorem piecesAt_concat (hseparator : separator.toList = [d]) (h : LacksEach d pieces) (last : String) :
    piecesAt d (separator.intercalate (pieces ++ [last])) = pieces ++ piecesAt d last := by
  cases pieces with
  | nil => rw [List.nil_append, List.nil_append, String.intercalate_singleton]
  | cons piece rest =>
      have hne : piece :: rest ≠ [] := List.cons_ne_nil piece rest
      rw [String.intercalate_append_of_ne_nil hne (List.cons_ne_nil last []),
        String.intercalate_singleton, piecesAt_append hseparator, piecesAt_intercalate hseparator hne h]

theorem piecesAt_cons (hseparator : separator.toList = [d]) (first : String) (h : LacksEach d pieces) :
    piecesAt d (separator.intercalate (first :: pieces)) = piecesAt d first ++ pieces := by
  cases pieces with
  | nil => rw [String.intercalate_singleton, List.append_nil]
  | cons piece rest =>
      rw [String.intercalate_cons_cons, piecesAt_append hseparator,
        piecesAt_intercalate hseparator (List.cons_ne_nil piece rest) h]

/-- Where only as many first places count as there are pieces, the last piece may hold separators. -/
theorem firstPieces_concat (hseparator : separator.toList = [d]) (h : LacksEach d pieces) :
    firstPieces d pieces.length (separator.intercalate (pieces ++ [last])) = pieces ++ [last] := by
  have hlong : ¬ (pieces ++ piecesAt d last).length ≤ pieces.length := by
    have hpos := length_piecesAt_pos d last
    rw [List.length_append]
    omega
  simp only [firstPieces, piecesAt_concat hseparator h, if_neg hlong, List.take_left, List.drop_left,
    intercalate_piecesAt]

/-- Where places count that are not there, all pieces are found. -/
theorem firstPieces_intercalate (hseparator : separator.toList = [d]) (hne : pieces ≠ [])
    (h : LacksEach d pieces) {count : Nat} (hcount : pieces.length ≤ count) :
    firstPieces d count (separator.intercalate pieces) = pieces := by
  simp only [firstPieces, piecesAt_intercalate hseparator hne h, if_pos hcount]

/-- Where only as many last places count as there are pieces, the first piece may hold separators. -/
theorem lastPieces_cons (hseparator : separator.toList = [d]) (h : LacksEach d pieces) :
    lastPieces d pieces.length (separator.intercalate (first :: pieces)) = first :: pieces := by
  have hlong : ¬ (piecesAt d first ++ pieces).length ≤ pieces.length := by
    have hpos := length_piecesAt_pos d first
    rw [List.length_append]
    omega
  have hfront : (piecesAt d first ++ pieces).length - pieces.length = (piecesAt d first).length := by
    rw [List.length_append, Nat.add_sub_cancel]
  simp only [lastPieces, piecesAt_cons hseparator first h, if_neg hlong, hfront, List.take_left,
    List.drop_left, intercalate_piecesAt]

end

/-! ### What stands in a slot -/

/-- What stands in a slot that may be empty, read by a reader of what is written there. -/
def slotOf? {α : Type} (read : String → Option α) (slot : String) : Option (Option α) :=
  if slot = "" then some none else some <$> read slot

section

variable {α β : Type} {read : String → Option β} {write : α → String} {found : α → β}

/-- Where nothing that is written in a slot is the empty text, it is told apart from its absence. -/
theorem slotOf?_elim (h : ∀ a, write a ≠ "" ∧ read (write a) = some (found a)) (o : Option α) :
    slotOf? read (o.elim "" write) = some (o.map found) := by
  cases o with
  | none => rfl
  | some a =>
      obtain ⟨hwritten, hread⟩ := h a
      rw [Option.elim_some, slotOf?, if_neg hwritten, hread]
      rfl

theorem slotOf?_elim_self {read : String → Option α}
    (h : ∀ a, write a ≠ "" ∧ read (write a) = some a) (o : Option α) :
    slotOf? read (o.elim "" write) = some o := by
  have hslot : slotOf? read (o.elim "" write) = some (o.map id) := slotOf?_elim h o
  rwa [Option.map_id_fun, id] at hslot

/-- Items are read one by one from what they were written as. -/
theorem mapM_read {read : String → Option α} {items : List α}
    (h : ∀ a ∈ items, read (write a) = some a) : (items.map write).mapM read = some items := by
  induction items with
  | nil => rfl
  | cons a rest ih =>
      obtain ⟨ha, hrest⟩ := List.forall_mem_cons.mp h
      rw [List.map_cons, List.mapM_cons, ha, ih hrest]
      rfl

end

/-- Whether a token stands in its slot. -/
def flagOf? (token slot : String) : Option Bool :=
  if slot = token then some true else if slot = "" then some false else none

theorem flagOf?_tokenIf {token : String} (h : token ≠ "") (on : Bool) :
    flagOf? token (tokenIf on token) = some on := by
  cases on with
  | true => exact if_pos rfl
  | false =>
      have hother : ¬ tokenIf false token = token := h.symm
      rw [flagOf?, if_neg hother]
      rfl

/-- What stands behind a mark. -/
def behindMark? (mark t : String) : Option String :=
  (mark.toList.isPrefixOf? t.toList).map String.ofList

theorem behindMark?_append (mark t : String) : behindMark? mark (mark ++ t) = some t := by
  have hfront : mark.toList.isPrefixOf? (mark ++ t).toList = some t.toList :=
    List.isPrefixOf?_eq_some_iff_append_eq.mpr String.toList_append.symm
  rw [behindMark?, hfront, Option.map_some, String.ofList_toList]

/-- The word of a keyword list that is written as a text. -/
def Keyword.ofText? {α : Type} [Keyword α] (t : String) : Option α :=
  (Keyword.all : List α).find? fun a => Keyword.text a == t

/-- A keyword list whose words fill a slot: each is found by its text, which is not empty and has no
space. -/
class SlotKeyword (α : Type) [Keyword α] : Prop where
  found : ∀ a : α, Keyword.ofText? (Keyword.text a) = some a
  filled : ∀ a : α, Keyword.text a ≠ "" ∧ Lacks ' ' (Keyword.text a)

instance : SlotKeyword ClientState :=
  ⟨fun a => by cases a <;> decide, fun a => by cases a <;> decide⟩
instance : SlotKeyword FontStyle := ⟨fun a => by cases a <;> decide, fun a => by cases a <;> decide⟩
instance : SlotKeyword FontVariant := ⟨fun a => by cases a <;> decide, fun a => by cases a <;> decide⟩
instance : SlotKeyword FontWeight := ⟨fun a => by cases a <;> decide, fun a => by cases a <;> decide⟩
instance : SlotKeyword FontStretch := ⟨fun a => by cases a <;> decide, fun a => by cases a <;> decide⟩
instance : SlotKeyword FontGravity := ⟨fun a => by cases a <;> decide, fun a => by cases a <;> decide⟩

section

variable {α : Type} [Keyword α] [SlotKeyword α]

theorem slotOf?_keyword (a : Option α) :
    slotOf? Keyword.ofText? (a.elim "" Keyword.text) = some a :=
  slotOf?_elim_self (fun a => ⟨(SlotKeyword.filled a).1, SlotKeyword.found a⟩) a

end

/-- An empty slot has no space, and a filled one has none if what is written there has none. -/
theorem lacks_elim {α : Type} {d : Char} {write : α → String} (h : ∀ a, Lacks d (write a))
    (o : Option α) : Lacks d (o.elim "" write) := by
  cases o with
  | none => exact lacks_empty
  | some a => exact h a

end SwayControl
