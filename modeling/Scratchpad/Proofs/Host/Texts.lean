import Scratchpad.Host.Sample

/-! Texts as the sample host measures and reads them. A text is as long as it has 16-bit units, but
its characters are found by counting whole characters. So the two methods agree on the texts without
wide characters, and a loop over the length of any other text runs past its end.
-/

namespace Scratchpad

namespace Utf16

/-- How many characters of a text take two units. -/
def wideCount (text : String) : Nat := text.toList.countP fun c => 0x10000 ≤ c.toNat

/-- A list of characters takes a unit for each one and another for each wide one, by induction on
the list.
-/
theorem foldl_width (cs : List Char) (units : Nat)
    : cs.foldl (fun units c => units + width c) units
      = units + cs.length + cs.countP fun c => 0x10000 ≤ c.toNat := by
  induction cs generalizing units with
  | nil => rfl
  | cons c rest ih =>
      rw [List.foldl_cons, ih, List.length_cons, List.countP_cons]
      by_cases narrow : c.toNat < 0x10000
      · simp [width, narrow, Nat.not_le.mpr narrow]
        omega
      · simp [width, narrow, Nat.not_lt.mp narrow]
        omega

/-- The length of a text is its number of characters and one more for each wide one. -/
theorem length_eq (text : String) : length text = text.length + wideCount text := by
  rw [length, foldl_width, String.length_toList, wideCount, Nat.zero_add]

end Utf16

/-- A count goes as far as an `int` does.
Witness: a count that fits is itself, and any other becomes the largest `int`.
-/
theorem Numeric.toInt_ofCount (count : Nat)
    : (ofCount count).toInt = min count 2147483647 := by
  unfold ofCount
  split
  · next fits =>
      rw [Int32.toInt_ofNat_of_lt (by omega)]
      omega
  · rw [Int32.toInt_maxValue]
    omega

namespace SampleHost

open Utf16 (wideCount)

/-- What is thrown for an index at which a text has no character. -/
def outOfRange : HostException :=
  ⟨"java.lang.StringIndexOutOfBoundsException", "index out of range"⟩

/-- A call of a method of texts. Of its declaration only the class and the name matter. -/
def callOnText (decl : MethodDecl String) (name text : String) (args : List Value)
    : HostAction World (Except HostException Value) :=
  host.invokeMethod { decl with declaring := "java.lang.String", name } (.str text) args

/-- Reads as many characters as asked for, from an index on, one call after the other. -/
def readFrom (decl : MethodDecl String) (text : String) (heap : Heap)
    : (count index : Nat) → World → Except HostException (List Value)
  | 0, _, _ => .ok []
  | count + 1, index, world => do
    let response := callOnText decl "charAt" text [.int (Int32.ofNat index)] heap world
    let value ← response.answer
    let rest ← readFrom decl text heap count (index + 1) response.world
    return value :: rest

variable (decl : MethodDecl String) (heap : Heap) (world : World) {text : String} {index : Int32}

/-- The host measures a text in units. -/
theorem answer_length (text : String)
    : (callOnText decl "length" text [] heap world).answer
      = .ok (.int (Numeric.ofCount (text.length + wideCount text))) := by
  rw [← Utf16.length_eq]
  rfl

/-- The host reads the character at a position, if there is one. -/
theorem answer_charAt
    : (callOnText decl "charAt" text [.int index] heap world).answer
      = match if index < 0 then none else text.toList[index.toNatClampNeg]? with
        | some c => .ok (.char c)
        | none => .error outOfRange := by
  simp only [callOnText, host, invokeMethod, method?, stringCharAt, Value.str?]
  cases if index < 0 then none else text.toList[index.toNatClampNeg]? <;> rfl

/-- Within the number of characters the call returns the one at its index.
Witness: an index that is not negative is read as the position it says.
-/
theorem answer_charAt_of_inside (inside : 0 ≤ index.toInt) (below : index.toInt < text.length)
    : ∃ c, text.toList[index.toInt.toNat]? = some c
        ∧ (callOnText decl "charAt" text [.int index] heap world).answer = .ok (.char c) := by
  have bound : index.toInt.toNat < text.toList.length := by
    rw [String.length_toList]
    omega
  have nonnegative : ¬index < 0 := by
    rw [Int32.lt_iff_toInt_lt]
    exact Int.not_lt.mpr inside
  have found := List.getElem?_eq_getElem bound
  refine ⟨_, found, ?_⟩
  rw [answer_charAt, if_neg nonnegative, Int32.toNatClampNeg, found]

/-- Outside the number of characters the call throws.
Witness: a negative index is refused, and no character stands at or behind the end.
-/
theorem answer_charAt_of_outside (outside : ¬(0 ≤ index.toInt ∧ index.toInt < text.length))
    : (callOnText decl "charAt" text [.int index] heap world).answer = .error outOfRange := by
  rw [answer_charAt]
  by_cases negative : index < 0
  · rw [if_pos negative]
  · have inside : 0 ≤ index.toInt := by
      rw [Int32.lt_iff_toInt_lt] at negative
      exact Int.not_lt.mp negative
    have beyond : text.toList.length ≤ index.toInt.toNat := by
      rw [String.length_toList]
      omega
    rw [if_neg negative, Int32.toNatClampNeg, List.getElem?_eq_none beyond]

/-- A loop gets the characters it asks for or runs past the end, by induction on how many it asks
for.
-/
theorem readFrom_eq {count start : Nat} (fits : start + count ≤ 2147483647)
    (inside : start ≤ text.length)
    : readFrom decl text heap count start world
      = if start + count ≤ text.length then
          .ok (((text.toList.drop start).take count).map .char)
        else .error outOfRange := by
  induction count generalizing start world with
  | zero => simp [readFrom, inside]
  | succ count ih =>
      have position : (Int32.ofNat start).toInt = start := Int32.toInt_ofNat_of_lt (by omega)
      by_cases below : start < text.length
      · obtain ⟨c, found, answer⟩ :=
          answer_charAt_of_inside decl heap world
            (show 0 ≤ (Int32.ofNat start).toInt by omega) (show _ < (text.length : Int) by omega)
        rw [position, Int.toNat_natCast] at found
        obtain ⟨bound, same⟩ := List.getElem?_eq_some_iff.mp found
        rw [readFrom, answer, ih _ (by omega) (by omega), List.drop_eq_getElem_cons bound, same,
          Nat.add_assoc, Nat.add_comm 1]
        split <;> rfl
      · have outside
            : ¬(0 ≤ (Int32.ofNat start).toInt ∧ (Int32.ofNat start).toInt < text.length) := by
          omega
        rw [readFrom, answer_charAt_of_outside decl heap world outside, if_neg (by omega)]
        rfl

/-- A call returns exactly the character at its index.
Witness: by whether the index is within the text, which decides how the call ends.
-/
theorem answer_charAt_eq_ok_iff {c : Char}
    : (callOnText decl "charAt" text [.int index] heap world).answer = .ok (.char c)
      ↔ 0 ≤ index.toInt ∧ text.toList[index.toInt.toNat]? = some c := by
  by_cases position : 0 ≤ index.toInt ∧ index.toInt < text.length
  · obtain ⟨own, found, answer⟩ :=
      answer_charAt_of_inside decl heap world position.1 position.2
    rw [answer, found]
    simp [position.1]
  · rw [answer_charAt_of_outside decl heap world position]
    refine iff_of_false nofun ?_
    rintro ⟨inside, found⟩
    obtain ⟨bound, _⟩ := List.getElem?_eq_some_iff.mp found
    rw [String.length_toList] at bound
    omega

/-- A call throws exactly if the text has no such character. -/
theorem answer_charAt_eq_error_iff
    : (callOnText decl "charAt" text [.int index] heap world).answer = .error outOfRange
      ↔ ¬(0 ≤ index.toInt ∧ index.toInt < text.length) := by
  refine ⟨fun thrown position => ?_, answer_charAt_of_outside decl heap world⟩
  obtain ⟨c, _, answer⟩ := answer_charAt_of_inside decl heap world position.1 position.2
  rw [answer] at thrown
  cases thrown

/-- A call returns a character exactly within the number of characters, since it throws everywhere
else.
-/
theorem exists_answer_charAt_iff
    : (∃ c, (callOnText decl "charAt" text [.int index] heap world).answer = .ok (.char c))
      ↔ 0 ≤ index.toInt ∧ index.toInt < text.length := by
  by_cases position : 0 ≤ index.toInt ∧ index.toInt < text.length
  · obtain ⟨c, _, answer⟩ := answer_charAt_of_inside decl heap world position.1 position.2
    exact iff_of_true ⟨c, answer⟩ position
  · rw [answer_charAt_of_outside decl heap world position]
    exact iff_of_false nofun position

/-- An `int` bounds the indices of a text as the number of its characters does only if it is that
number. Where it is not, the smaller of the two is an index that tells them apart.
-/
theorem bounds_agree_iff {count : Nat} {units : Int32} (long : min count 2147483647 ≤ units.toInt)
    : (∀ index : Int32,
        0 ≤ index.toInt ∧ index.toInt < count ↔ 0 ≤ index.toInt ∧ index < units)
      ↔ units.toInt = count := by
  constructor
  · intro agree
    have last := Numeric.toInt_ofCount count
    have largest : units.toInt ≤ 2147483647 := units.toInt_le
    have told := agree (Numeric.ofCount count)
    rw [Int32.lt_iff_toInt_lt] at told
    omega
  · intro same index
    rw [Int32.lt_iff_toInt_lt, same]

/-- How the host measures a text, and how it reads one: the two count differently. -/
structure ReadsByCharacter (text : String) (units : Int32) : Prop where
  /-- The length counts units, as far as an `int` goes. -/
  length : (callOnText decl "length" text [] heap world).answer = .ok (.int units)
  toInt_length : units.toInt = min (text.length + wideCount text) 2147483647
  /-- A character is found by the number of characters before it. -/
  charAt
    : ∀ index c,
        (callOnText decl "charAt" text [.int index] heap world).answer = .ok (.char c)
        ↔ 0 ≤ index.toInt ∧ text.toList[index.toInt.toNat]? = some c
  charAt_outside
    : ∀ index,
        (callOnText decl "charAt" text [.int index] heap world).answer = .error outOfRange
        ↔ ¬(0 ≤ index.toInt ∧ index.toInt < text.length)
  /-- The two methods agree on where a text ends only if no character is wide. The last case is
  that of the one text size at which both end where an `int` does.
  -/
  agree_iff
    : (∀ index,
        (∃ c, (callOnText decl "charAt" text [.int index] heap world).answer = .ok (.char c))
        ↔ 0 ≤ index.toInt ∧ index < units)
      ↔ wideCount text = 0 ∧ text.length ≤ 2147483647 ∨ text.length = 2147483647
  /-- A loop over the whole length reads the text, or runs past its end if a character is wide. -/
  loop
    : readFrom decl text heap units.toInt.toNat 0 world
      = if wideCount text = 0 ∨ 2147483647 ≤ text.length then
          .ok ((text.toList.take units.toInt.toNat).map .char)
        else .error outOfRange

/-- Every text is measured in units and read by characters, whatever else a call comes with.
Witness: the length is the clamped number of units, while reading and throwing are decided by the
number of characters; the two agree exactly if no character is wide.
-/
theorem charAt_counts_whole_characters (text : String)
    : ∃ units, ReadsByCharacter decl heap world text units := by
  generalize count : Numeric.ofCount (text.length + wideCount text) = units
  have measured : units.toInt = min (text.length + wideCount text) 2147483647 := by
    rw [← count, Numeric.toInt_ofCount]
  refine ⟨units, ?_, measured, fun index c => ?_, fun index => ?_, ?_, ?_⟩
  · rw [answer_length, count]
  · exact answer_charAt_eq_ok_iff decl heap world
  · exact answer_charAt_eq_error_iff decl heap world
  · simp only [exists_answer_charAt_iff]
    rw [bounds_agree_iff (by omega)]
    omega
  · have within
        : 0 + units.toInt.toNat ≤ text.length
          ↔ wideCount text = 0 ∨ 2147483647 ≤ text.length := by
      omega
    rw [readFrom_eq decl heap world (by omega) (Nat.zero_le _), List.drop_zero]
    simp only [within]

/-- The text of a wide character and a narrow one has length 3, but no character at index 2.
Witness: both calls are evaluated; an index below the length would have to give a character.
-/
theorem wide_text_ends_before_its_length
    : (callOnText default "length" "😀a" [] {} {}).answer = .ok (.int 3)
      ∧ (callOnText default "charAt" "😀a" [.int 2] {} {}).answer = .error outOfRange
      ∧ ¬∀ index : Int32,
          (∃ c, (callOnText default "charAt" "😀a" [.int index] {} {}).answer = .ok (.char c))
          ↔ 0 ≤ index.toInt ∧ index < 3 := by
  have thrown : (callOnText default "charAt" "😀a" [.int 2] {} {}).answer = .error outOfRange := rfl
  refine ⟨rfl, thrown, fun agree => ?_⟩
  obtain ⟨c, answer⟩ := (agree 2).mpr (by decide)
  rw [thrown] at answer
  cases answer

end SampleHost

end Scratchpad
