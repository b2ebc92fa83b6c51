import Mathlib.Data.Finset.Card
import Scratchpad.Name

/-! Tables of names. The two directions of a table, from texts to indices and back, stay inverse to
each other through every history of interning. A table never forgets a text and never moves one, so
names and texts stay paired as they were first met. Behind the reserved ones, names are numbered in
the order in which their texts first occur.
-/

namespace Scratchpad

-----------------------------------------------------------------------------------------
-- Growing tables
-----------------------------------------------------------------------------------------

/-- A table knows the names that it has handed out. -/
def Interner.Knows (table : Interner) (name : Name) : Prop := name.index < table.size

instance (table : Interner) (name : Name) : Decidable (table.Knows name) :=
  inferInstanceAs (Decidable (name.index < table.size))

/-- A table after some texts more: it knows the names it knew, by the same texts. -/
structure Interner.Grows (before after : Interner) : Prop where
  knows : ∀ {name}, before.Knows name → after.Knows name
  text : ∀ {name}, before.Knows name → after.text name = before.text name

namespace Interner.Grows

/-- A table that nothing was added to knows what it knew. -/
theorem refl (table : Interner) : table.Grows table := ⟨id, fun _ => rfl⟩

/-- Growing twice is growing: what the first table knows, the second one knows, and so the third. -/
theorem trans {first second third : Interner} (early : first.Grows second)
    (late : second.Grows third)
    : first.Grows third where
  knows := fun known => late.knows (early.knows known)
  text := fun known => (late.text (early.knows known)).trans (early.text known)

/-- A text behind the others leaves every earlier one where it is. -/
theorem push (table : Interner) (text : String) : table.Grows (table.push text) := by
  refine ⟨fun {name} known => ?_, fun {name} known => ?_⟩
  · have size : name.index < table.texts.size := known
    show name.index < (table.texts.push text).size
    rw [Array.size_push]
    omega
  · have size : name.index < table.texts.size := known
    show (table.texts.push text).getD name.index "" = table.texts.getD name.index ""
    rw [Array.getD_eq_getD_getElem?, Array.getD_eq_getD_getElem?,
      Array.getElem?_push_lt size, Array.getElem?_eq_getElem size]

/-- A table grows by what is interned in it, whether or not it was consistent before.
Witness: a known text changes nothing, and a new one goes behind the others.
-/
theorem intern (table : Interner) (text : String) : table.Grows (table.intern text).2 := by
  unfold Interner.intern
  split
  · exact .refl table
  · exact .push table text

end Interner.Grows

namespace Interner

variable {table : Interner}

-----------------------------------------------------------------------------------------
-- Indices and texts
-----------------------------------------------------------------------------------------

/-- The two directions of a table undo each other: a text has an index exactly if it is the text at
that index.
-/
structure Inverse (table : Interner) : Prop where
  lookup_eq_some
    : ∀ {text index}, table.indices.lookup text = some index ↔ table.texts[index]? = some text

namespace Inverse

/-- A table without texts has nothing to find in either direction. -/
theorem nil : Inverse { indices := [], texts := #[] } := by
  refine ⟨fun {text index} => ?_⟩
  simp

/-- A text that the table holds nowhere has no index. -/
theorem lookup_eq_none (inverse : table.Inverse) {text : String}
    : table.indices.lookup text = none ↔ text ∉ table.texts.toList := by
  rw [Option.eq_none_iff_forall_ne_some, List.mem_iff_getElem?, not_exists]
  refine forall_congr' fun index => not_congr ?_
  rw [inverse.lookup_eq_some, Array.getElem?_toList]

/-- A new text gets the first index that is free, and both directions learn it.
Witness: at that index no text stands yet, and the text has no other index, since it is new.
-/
theorem push (inverse : table.Inverse) {text : String} (new : text ∉ table.texts.toList)
    : (table.push text).Inverse := by
  refine ⟨fun {other index} => ?_⟩
  have absent : table.indices.lookup text = none := inverse.lookup_eq_none.mpr new
  show (Bindings.insert text table.texts.size table.indices).lookup other = some index
    ↔ (table.texts.push text)[index]? = some other
  rw [Bindings.lookup_insert, Array.getElem?_push]
  by_cases same : other = text
  · subst other
    rw [if_pos rfl]
    split
    · next last => simp [last]
    · next earlier =>
        rw [← inverse.lookup_eq_some, absent]
        simpa using Ne.symm earlier
  · rw [if_neg same, inverse.lookup_eq_some]
    split
    · next last => simp [last, Ne.symm same]
    · rfl

/-- Interning keeps the two directions inverse: a text without an index is new to the table. -/
theorem intern (inverse : table.Inverse) (text : String) : (table.intern text).2.Inverse := by
  unfold Interner.intern
  split
  · exact inverse
  · next missing => exact inverse.push (inverse.lookup_eq_none.mp missing)

/-- A new table keeps the reserved texts with their indices.
Witness: they are put behind one another as any other texts are, and all of them differ.
-/
theorem reserving : ({} : Interner).Inverse :=
  ((nil.push (by decide)).push (by decide)).push (by decide)

/-- No text is in a table twice, for it has one index only. -/
theorem nodup (inverse : table.Inverse) : table.texts.toList.Nodup := by
  rw [List.nodup_iff_getElem?_ne_getElem?]
  intro i j before inside same
  have inside' : i < table.texts.toList.length := before.trans inside
  have first := List.getElem?_eq_getElem inside'
  have second := same ▸ first
  rw [Array.getElem?_toList] at first second
  have indices := (inverse.lookup_eq_some.mpr first).symm.trans (inverse.lookup_eq_some.mpr second)
  have equal : i = j := Option.some.inj indices
  omega

/-- A text in a place of the table has that place as name, since the place is its only index. -/
theorem intern_of_getElem? (inverse : table.Inverse) {index : Nat} {text : String}
    (found : table.texts.toList[index]? = some text)
    : table.intern text = (⟨index⟩, table) := by
  rw [Array.getElem?_toList] at found
  rw [Interner.intern, inverse.lookup_eq_some.mpr found]

/-- A text that a table holds has the place where it is found as name. -/
theorem intern_of_mem (inverse : table.Inverse) {text : String}
    (held : text ∈ table.texts.toList)
    : table.intern text = (⟨table.texts.toList.idxOf text⟩, table) :=
  inverse.intern_of_getElem? (List.getElem?_idxOf held)

/-- A new text goes behind the others. -/
theorem intern_of_notMem (inverse : table.Inverse) {text : String}
    (new : text ∉ table.texts.toList)
    : table.intern text = (⟨table.size⟩, table.push text) := by
  rw [Interner.intern, inverse.lookup_eq_none.mpr new]
  rfl

/-- The name of a text is where the text stands, or where it is put. -/
theorem intern_fst (inverse : table.Inverse) (text : String)
    : (table.intern text).1 = ⟨table.texts.toList.idxOf text⟩ := by
  by_cases held : text ∈ table.texts.toList
  · rw [inverse.intern_of_mem held]
  · rw [inverse.intern_of_notMem held, List.idxOf_eq_length held, Array.length_toList, size]

/-- A text is added to the end of a table unless the table holds it. -/
theorem toList_intern (inverse : table.Inverse) (text : String)
    : (table.intern text).2.texts.toList
      = if text ∈ table.texts.toList then table.texts.toList
        else table.texts.toList ++ [text] := by
  split
  · next held => rw [inverse.intern_of_mem held]
  · next new => rw [inverse.intern_of_notMem new, Interner.push, Array.toList_push]

end Inverse

-----------------------------------------------------------------------------------------
-- Sound tables
-----------------------------------------------------------------------------------------

/-- A table that was filled by interning: its two directions are inverse, and the reserved texts are
where they belong.
-/
structure Sound (table : Interner) : Prop where
  inverse : table.Inverse
  reserved : ({} : Interner).Grows table

/-- A text is read back from its name.
Witness: its index, if it has one, leads back to it; otherwise it is the last text.
-/
theorem Sound.text_intern (sound : table.Sound) (text : String)
    : (table.intern text).2.Knows (table.intern text).1
      ∧ (table.intern text).2.text (table.intern text).1 = text := by
  unfold Interner.intern
  split
  · next index found =>
      have read := sound.inverse.lookup_eq_some.mp found
      obtain ⟨inside, same⟩ := Array.getElem?_eq_some_iff.mp read
      exact ⟨inside, by simp [Interner.text, inside, same]⟩
  · simp [Knows, size, Interner.text, Interner.push]

/-- Interning keeps a table sound, since it keeps the directions inverse and only adds texts. -/
theorem Sound.intern (sound : table.Sound) (text : String) : (table.intern text).2.Sound :=
  ⟨sound.inverse.intern text, sound.reserved.trans (.intern table text)⟩

/-- Every history of interning leaves a sound table, by induction on it. -/
theorem sound_filled (past : List String) : (filled past).Sound := by
  have start : ({} : Interner).Sound := ⟨.reserving, .refl _⟩
  unfold filled
  generalize ({} : Interner) = table at start ⊢
  induction past generalizing table with
  | nil => exact start
  | cons text rest ih => exact ih _ (start.intern text)

/-- A sound table tells its names apart by their texts, for a text has one index only. -/
theorem Sound.name_eq (sound : table.Sound) {name other : Name} (known : table.Knows name)
    (known' : table.Knows other) (same : table.text name = table.text other)
    : name = other := by
  obtain ⟨index⟩ := name
  obtain ⟨index'⟩ := other
  have inside : index < table.texts.size := known
  have inside' : index' < table.texts.size := known'
  simp only [Interner.text, Array.getD_eq_getD_getElem?, Array.getElem?_eq_getElem inside,
    Array.getElem?_eq_getElem inside', Option.getD_some] at same
  exact congrArg Name.mk (sound.inverse.nodup.getElem_inj_iff.mp same)

-----------------------------------------------------------------------------------------
-- Interning one text after the other
-----------------------------------------------------------------------------------------

/-- A table after some texts have been interned in it. -/
def afterAll (table : Interner) (calls : List String) : Interner :=
  calls.foldl (fun table text => (table.intern text).2) table

/-- The names that come back from interning some texts, one after the other. -/
def given (table : Interner) : List String → List Name
  | [] => []
  | text :: rest => (table.intern text).1 :: (table.intern text).2.given rest

/-- The texts that are not among the known ones, each where it first occurs. -/
def newTexts (known calls : List String) : List String := (calls.removeAll known).eraseDups

/-- The new texts are those that occur and are not known. -/
theorem mem_newTexts {known calls : List String} {text : String}
    : text ∈ newTexts known calls ↔ text ∈ calls ∧ text ∉ known := by
  simp [newTexts, List.removeAll]

/-- A known text adds nothing new. -/
theorem newTexts_cons_of_mem {known : List String} {text : String} (held : text ∈ known)
    (rest : List String)
    : newTexts known (text :: rest) = newTexts known rest := by
  simp [newTexts, List.cons_removeAll, held]

/-- A new text comes first, and is known from then on.
Witness: leaving out its later occurrences is leaving it out of what is new behind it.
-/
theorem newTexts_cons_of_notMem {known : List String} {text : String} (new : text ∉ known)
    (rest : List String)
    : newTexts known (text :: rest) = text :: newTexts (known ++ [text]) rest := by
  have others
      : (rest.removeAll known).filter (fun other => !other == text)
        = rest.removeAll (known ++ [text]) := by
    simp only [List.removeAll, List.filter_filter]
    refine List.filter_congr fun other _ => ?_
    by_cases same : other = text <;> simp [same]
  simp [newTexts, List.cons_removeAll, new, List.eraseDups_cons, others]

/-- By induction on what is interned first: the names of the rest come from the table that the first
texts leave.
-/
theorem given_append (table : Interner) (calls later : List String)
    : table.given (calls ++ later)
      = table.given calls ++ (table.afterAll calls).given later := by
  induction calls generalizing table with
  | nil => rfl
  | cons text rest ih => exact congrArg (_ :: ·) (ih _)

namespace Inverse

/-- New texts go to the end of a table in the order in which they first occur, by induction on what
is interned; each step asks only that the directions are inverse before it.
-/
theorem toList_afterAll (inverse : table.Inverse) (calls : List String)
    : (table.afterAll calls).texts.toList
      = table.texts.toList ++ newTexts table.texts.toList calls := by
  induction calls generalizing table with
  | nil => simp [afterAll, newTexts]
  | cons text rest ih =>
      show ((table.intern text).2.afterAll rest).texts.toList = _
      rw [ih (inverse.intern text), inverse.toList_intern]
      split
      · next held => rw [newTexts_cons_of_mem held]
      · next new => rw [newTexts_cons_of_notMem new, List.append_assoc, List.singleton_append]

/-- A text stays where it is, whatever is interned later: new texts go behind it. -/
theorem idxOf_afterAll (inverse : table.Inverse) {text : String}
    (held : text ∈ table.texts.toList) (calls : List String)
    : (table.afterAll calls).texts.toList.idxOf text = table.texts.toList.idxOf text := by
  rw [inverse.toList_afterAll, List.idxOf_append_of_mem held]

/-- Interning a text leaves it where it is, or puts it where it had its name. -/
theorem idxOf_intern (inverse : table.Inverse) (text : String)
    : (table.intern text).2.texts.toList.idxOf text = table.texts.toList.idxOf text := by
  rw [inverse.toList_intern]
  split
  · rfl
  · next new => simp [List.idxOf_append_of_notMem new, List.idxOf_eq_length new]

/-- A table holds a text that was interned just now. -/
theorem mem_intern (inverse : table.Inverse) (text : String)
    : text ∈ (table.intern text).2.texts.toList := by
  rw [inverse.toList_intern]
  split
  · next held => exact held
  · exact List.mem_append_right _ (List.mem_singleton_self text)

/-- The names that come back are those that the texts have in the end, by induction on what is
interned: the first text is not moved by the rest.
-/
theorem given_eq_map (inverse : table.Inverse) (calls : List String)
    : table.given calls
      = calls.map fun text => ⟨(table.afterAll calls).texts.toList.idxOf text⟩ := by
  induction calls generalizing table with
  | nil => rfl
  | cons text rest ih =>
      have kept
          : ((table.intern text).2.afterAll rest).texts.toList.idxOf text
            = table.texts.toList.idxOf text := by
        rw [(inverse.intern text).idxOf_afterAll (inverse.mem_intern text), inverse.idxOf_intern]
      rw [given, ih (inverse.intern text), inverse.intern_fst, List.map_cons, ← kept]
      rfl

/-- A table holds what has been interned in it, as a text it knew or as one of the new ones. -/
theorem mem_afterAll (inverse : table.Inverse) {text : String} {calls : List String}
    (interned : text ∈ calls)
    : text ∈ (table.afterAll calls).texts.toList := by
  rw [inverse.toList_afterAll, List.mem_append]
  by_cases held : text ∈ table.texts.toList
  · exact .inl held
  · exact .inr (mem_newTexts.mpr ⟨interned, held⟩)

end Inverse

-----------------------------------------------------------------------------------------
-- Names and texts in pairs
-----------------------------------------------------------------------------------------

/-- The text of a name, read off the list of texts. -/
theorem text_eq (table : Interner) (name : Name)
    : table.text name = table.texts.toList[name.index]?.getD "" := by
  rw [text, Array.getD_eq_getD_getElem?, Array.getElem?_toList]

/-- A text that the table holds is read back from its place. -/
theorem text_idxOf {text : String} (held : text ∈ table.texts.toList)
    : table.text ⟨table.texts.toList.idxOf text⟩ = text := by
  rw [text_eq, List.getElem?_idxOf held, Option.getD_some]

/-- The directions of a table are inverse after every history of interning. -/
theorem inverse_filled (calls : List String) : (filled calls).Inverse :=
  (sound_filled calls).inverse

/-- A filled table holds the reserved texts and behind them what is new. -/
theorem toList_filled (calls : List String)
    : (filled calls).texts.toList
      = Name.reserved.toList ++ newTexts Name.reserved.toList calls :=
  Inverse.reserving.toList_afterAll calls

/-- A reserved text has its place among the reserved ones as name, whatever is interned: the filled
table begins with them.
-/
theorem intern_reserved (calls : List String) {index : Nat} {text : String}
    (reserved : Name.reserved.toList[index]? = some text)
    : (filled calls).intern text = (⟨index⟩, filled calls) := by
  refine (inverse_filled calls).intern_of_getElem? ?_
  obtain ⟨inside, _⟩ := List.getElem?_eq_some_iff.mp reserved
  rw [toList_filled, List.getElem?_append_left inside, reserved]

/-- A longer history is the shorter one and then the rest. -/
theorem filled_append (calls later : List String)
    : filled (calls ++ later) = (filled calls).afterAll later :=
  List.foldl_append

/-- A filled table holds every text of its history. -/
theorem mem_filled {text : String} {calls : List String} (interned : text ∈ calls)
    : text ∈ (filled calls).texts.toList :=
  Inverse.reserving.mem_afterAll interned

/-- What was interned once is read back and found again in every later table.
Witness: the text keeps its place in the later table, and its place is its name there.
-/
theorem pair_filled_append {text : String} {calls : List String} (interned : text ∈ calls)
    (later : List String)
    : (filled (calls ++ later)).text ⟨(filled calls).texts.toList.idxOf text⟩ = text
      ∧ (filled (calls ++ later)).intern text
        = (⟨(filled calls).texts.toList.idxOf text⟩, filled (calls ++ later)) := by
  have held : text ∈ (filled (calls ++ later)).texts.toList :=
    mem_filled (List.mem_append_left later interned)
  have stays
      : (filled (calls ++ later)).texts.toList.idxOf text
        = (filled calls).texts.toList.idxOf text := by
    rw [filled_append]
    exact (inverse_filled calls).idxOf_afterAll (mem_filled interned) later
  rw [← stays]
  exact ⟨text_idxOf held, (inverse_filled _).intern_of_mem held⟩

/-- The name that a call gives is the place of its text in the filled table. -/
theorem getElem?_given (calls : List String) (i : Nat)
    : (given {} calls)[i]?
      = calls[i]?.map fun text => ⟨(filled calls).texts.toList.idxOf text⟩ := by
  rw [Inverse.reserving.given_eq_map, List.getElem?_map]
  rfl

/-- Each call gives one name. -/
theorem length_given (calls : List String) : (given {} calls).length = calls.length := by
  rw [Inverse.reserving.given_eq_map, List.length_map]

/-- As many texts are new as there are different ones that are not reserved.
Witness: the new texts are without duplicates, since the whole table is.
-/
theorem length_newTexts (calls : List String)
    : (newTexts Name.reserved.toList calls).length
      = (calls.toFinset \ Name.reserved.toList.toFinset).card := by
  have distinct : (newTexts Name.reserved.toList calls).Nodup := by
    have all := (inverse_filled calls).nodup
    rw [toList_filled] at all
    exact (List.nodup_append.mp all).2.1
  have same
      : (newTexts Name.reserved.toList calls).toFinset
        = calls.toFinset \ Name.reserved.toList.toFinset := by
    ext text
    simp only [List.mem_toFinset, mem_newTexts, Finset.mem_sdiff]
  rw [← List.toFinset_card_of_nodup distinct, same]

/-- How names and texts are paired in a new table in which some texts have been interned. -/
structure Paired (calls : List String) : Prop where
  /-- A text has an index exactly if it is the text at that index, the reserved ones included. -/
  inverse : (filled calls).Inverse
  /-- Each call gives a name, and later calls do not change what it gave. -/
  length_given : (given {} calls).length = calls.length
  take_given : ∀ later, (given {} (calls ++ later)).take calls.length = given {} calls
  knows_given : ∀ name ∈ given {} calls, (filled calls).Knows name
  /-- Two calls give the same name exactly if they are made with the same text. -/
  same_iff
    : ∀ {i j : Nat}, i < calls.length → j < calls.length
        → ((given {} calls)[i]? = (given {} calls)[j]? ↔ calls[i]? = calls[j]?)
  /-- A name reads as its text and is given again for it, then and ever after. -/
  read_back
    : ∀ {i : Nat} {text name}, calls[i]? = some text → (given {} calls)[i]? = some name
        → ∀ later,
            (filled (calls ++ later)).text name = text
            ∧ (filled (calls ++ later)).intern text = (name, filled (calls ++ later))
  /-- A name that the table knows is the name of its text. -/
  intern_text
    : ∀ {name}, (filled calls).Knows name
        → (filled calls).intern ((filled calls).text name) = (name, filled calls)
  intern_empty : (filled calls).intern "" = (⟨0⟩, filled calls)
  intern_this : (filled calls).intern "this" = (⟨1⟩, filled calls)
  intern_length : (filled calls).intern "length" = (⟨2⟩, filled calls)
  /-- Other names are numbered in the order in which their texts first occur. -/
  intern_new
    : ∀ {position : Nat} {text}, (newTexts Name.reserved.toList calls)[position]? = some text
        → (filled calls).intern text = (⟨3 + position⟩, filled calls)
  size_eq : (filled calls).size = 3 + (calls.toFinset \ Name.reserved.toList.toFinset).card
  /-- A name from elsewhere reads as empty. -/
  text_unknown : ∀ {name}, ¬(filled calls).Knows name → (filled calls).text name = ""

/-- Interning pairs names and texts one to one, and for good.
Witness: the table's directions are inverse after every history, so the name of a text is its place
in the table; the table only grows at its end, so places do not change.
-/
theorem interning_is_a_stable_bijection (calls : List String) : Paired calls where
  inverse := inverse_filled calls
  length_given := length_given calls
  take_given := fun later => by
    rw [given_append, List.take_left' (length_given calls)]
  knows_given := fun name member => by
    rw [Inverse.reserving.given_eq_map] at member
    obtain ⟨text, interned, rfl⟩ := List.mem_map.mp member
    exact List.idxOf_lt_length_iff.mpr (mem_filled interned)
  same_iff := fun {i j} inside inside' => by
    have held : calls[i] ∈ (filled calls).texts.toList := mem_filled (List.getElem_mem inside)
    rw [getElem?_given, getElem?_given, List.getElem?_eq_getElem inside,
      List.getElem?_eq_getElem inside']
    simp [List.idxOf_inj held]
  read_back := fun {i text name} called named later => by
    rw [getElem?_given, called] at named
    obtain rfl := Option.some.inj named
    exact pair_filled_append (List.mem_of_getElem? called) later
  intern_text := fun {name} known => by
    have inside : name.index < (filled calls).texts.toList.length := known
    have found := List.getElem?_eq_getElem inside
    rw [text_eq, found]
    exact (inverse_filled calls).intern_of_getElem? found
  intern_empty := intern_reserved calls rfl
  intern_this := intern_reserved calls rfl
  intern_length := intern_reserved calls rfl
  intern_new := fun {position text} found => by
    refine (inverse_filled calls).intern_of_getElem? ?_
    have length : Name.reserved.toList.length = 3 := rfl
    rwa [toList_filled, List.getElem?_append_right (by omega), length, Nat.add_sub_cancel_left]
  size_eq := by
    rw [size, ← Array.length_toList, toList_filled, List.length_append, length_newTexts]
    rfl
  text_unknown := fun {name} unknown => by
    have beyond : (filled calls).texts.toList.length ≤ name.index := Nat.not_lt.mp unknown
    rw [text_eq, List.getElem?_eq_none beyond, Option.getD_none]

end Interner

end Scratchpad
