import SunixPci.Kernel
import SunixPci.Support.CArray

/-!
# Terminal — DeviceName

How `snxterm` gets the name of the device to open: the user edits a field of fifteen columns, and the
field is copied without its trailing blanks.  An access outside an array is `none`.

* `scanKey`: what a key does to the field and to the cursor; `scanTurn`: the turn of the loop, with
  the display of the field.
* `Edited`: the cursor is in a column of the field, where the window has it, and the field holds no
  NUL.
* `scanMove_edited`: every key keeps this, with accesses inside the array.
* `openDevice_spec`: what is copied.
* `deviceName_opens_iff`: the display always runs over the end of the field; apart from it, the name
  is opened just when it leaves the last column blank.
-/

namespace SunixPci.Terminal
open CArray

/-! ### The field -/

def KEY_LEFT : ℤ := 260
def KEY_RIGHT : ℤ := 261
def KEY_SENTER : ℤ := 10
def KEY_SBACKSPACE : ℤ := 263
def KEY_SDEL : ℤ := 330

def WIN_PORT_H : ℤ := 7
def WIN_PORT_W : ℤ := 38

/-- `' '`. -/
def blank : UChar := 0x20

/-- `char deviceName[15]`, `char fd[15]`. -/
abbrev Name := CArray UChar 15

/-- `"/dev/ttyS0     "`, which leaves no room for its NUL. -/
def deviceName : Name where
  cells := [0x2f, 0x64, 0x65, 0x76, 0x2f, 0x74, 0x74, 0x79, 0x53, 0x30, blank, blank, blank, blank,
    blank]
  length_eq := rfl

/-- The variables of `scanDeviceName`, the field, and where `port_win` has its cursor. -/
structure Scan where
  deviceName : Name
  curX : ℤ
  curY : ℤ
  winX : ℤ
  winY : ℤ
  close : Bool

/-! ### The keys -/

/-- `curX--`, around the left end. -/
def columnLeft (curX : ℤ) : ℤ := if curX - 1 < 22 then 36 else curX - 1

/-- `curX++`, around the right end. -/
def columnRight (curX : ℤ) : ℤ := if curX + 1 > 36 then 22 else curX + 1

/-- `getyx(port_win, curY, curX)`. -/
def Scan.getyx (s : Scan) : Scan := { s with curX := s.winX, curY := s.winY }

/-- The case `KEY_SBACKSPACE`: the column before the cursor. -/
def eraseBefore (name : Name) (curX : ℤ) : Option Name :=
  if curX = 22 then name.store 14 blank
  else if 0 ≤ curX - 23 then name.store (curX - 23) blank
  else some name

/-- The loop of the case `KEY_SDEL`, with the turns that are left. -/
def shiftLeft : ℕ → Name → Option Name
  | 0, name => some name
  | turns + 1, name => do
      let i : ℤ := 15 - (turns + 1 : ℕ)
      let name ←
        if 14 ≤ i then name.store i blank
        else do
          let c ← name.load (i + 1)
          name.store i c
      shiftLeft turns name

/-- A character, at the cursor. -/
def typeKey (s : Scan) (ch : ℤ) : Option Scan :=
  if 0 ≤ s.curX - 22 then do
    let name ← s.deviceName.store (s.curX - 22) (BitVec.ofInt 8 ch)
    return { s with deviceName := name, curX := columnRight s.curX }
  else some s

/-- The `switch` of `scanDeviceName`. -/
def scanKey (s : Scan) (ch : ℤ) : Option Scan :=
  if ch = KEY_LEFT then some { s with curX := columnLeft s.curX }
  else if ch = KEY_RIGHT then some { s with curX := columnRight s.curX }
  else if ch = KEY_SENTER then some { s with close := true }
  else if ch = KEY_SBACKSPACE then do
    let s := s.getyx
    let name ← eraseBefore s.deviceName s.curX
    return { s with deviceName := name, curX := columnLeft s.curX }
  else if ch = KEY_SDEL then do
    let s := s.getyx
    let name ← shiftLeft (15 - (s.curX - 22)).toNat s.deviceName
    return { s with deviceName := name }
  else if 0x20 ≤ ch ∧ ch ≤ 0x7e then typeKey s.getyx ch
  else some s

/-! ### The display, and the loop -/

/-- `wmove(port_win, curY, curX)`, which refuses a place outside the window. -/
def Scan.wmove (s : Scan) : Scan :=
  if 0 ≤ s.curY ∧ s.curY < WIN_PORT_H ∧ 0 ≤ s.curX ∧ s.curX < WIN_PORT_W then
    { s with winX := s.curX, winY := s.curY }
  else s

/-- What `printPortBasic` does to the cursor. -/
def Scan.placeCursor (s : Scan) : Scan := if s.curX ≠ 0 ∨ s.curY ≠ 0 then s.wmove else s

/-- `printPortBasic`, which prints the field with `%s`. -/
def printPortBasic (s : Scan) : Option Scan := do
  let _ ← string 0 s.deviceName.cells
  return s.placeCursor

/-- Before the first key. -/
def scanStart (name : Name) : Scan :=
  Scan.wmove { deviceName := name, curX := 31, curY := 1, winX := 0, winY := 0, close := false }

/-- A turn of the loop of `scanDeviceName`.  After the turn that closes it no key is read. -/
def scanTurn (s : Scan) (ch : ℤ) : Option Scan := do
  if s.close then return s
  else
    let s ← scanKey s ch
    printPortBasic s

/-- A turn in which the field is not displayed. -/
def scanMove (s : Scan) (ch : ℤ) : Option Scan :=
  if s.close then some s else (scanKey s ch).map Scan.placeCursor

/-- The field after some keys, without the display. -/
def scanDeviceName (name : Name) (keys : List ℤ) : Option Name :=
  (keys.foldlM scanMove (scanStart name)).map Scan.deviceName

/-- The loop of `openDevice`; `n` is `14 - i` in the next turn. -/
def copyName (name : Name) : ℕ → (hasChar : Bool) → Name → Option Name
  | 0, _, fd => some fd
  | n + 1, hasChar, fd => do
      let c ← name.load n
      if c = blank ∧ hasChar = false then copyName name n hasChar fd
      else do
        let fd ← fd.store n c
        copyName name n true fd

/-- What `openDevice` leaves in `fd`, the argument of its `open`. -/
def openDevice (name : Name) : Option Name :=
  copyName name 15 false ⟨List.replicate 15 0, rfl⟩

/-! ### What the keys keep -/

/-- The field holds no NUL. -/
def Printable (name : Name) : Prop := ∀ c ∈ name.cells, c ≠ 0

/-- The cursor is in a column of the field. -/
structure Inside (s : Scan) : Prop where
  left : 22 ≤ s.curX
  right : s.curX ≤ 36
  row : s.curY = 1
  printable : Printable s.deviceName

/-- And the window has it there. -/
structure Edited (s : Scan) : Prop extends Inside s where
  winX : s.winX = s.curX
  winY : s.winY = s.curY

theorem columnLeft_range {x : ℤ} (h₀ : 22 ≤ x) (h : x ≤ 36) :
    22 ≤ columnLeft x ∧ columnLeft x ≤ 36 := by
  unfold columnLeft
  split <;> omega

theorem columnRight_range {x : ℤ} (h₀ : 22 ≤ x) (h : x ≤ 36) :
    22 ≤ columnRight x ∧ columnRight x ≤ 36 := by
  unfold columnRight
  split <;> omega

theorem eraseBefore_printable {name : Name} (h : Printable name) {x : ℤ} (h₀ : 22 ≤ x)
    (hx : x ≤ 36) : ∃ name', eraseBefore name x = some name' ∧ Printable name' := by
  have hstore : ∀ i : ℤ, 0 ≤ i → i < 15 → ∃ name', name.store i blank = some name' ∧
      Printable name' := by
    intro i hi hi'
    obtain ⟨name', hname', -⟩ := store_some (a := name) hi hi' blank
    exact ⟨name', hname', store_all h (by decide) hname'⟩
  unfold eraseBefore
  split
  · exact hstore 14 (by decide) (by decide)
  · split
    · exact hstore _ (by omega) (by omega)
    · exact ⟨name, rfl, h⟩

theorem shiftLeft_printable (turns : ℕ) : ∀ {name : Name}, Printable name → turns ≤ 15 →
    ∃ name', shiftLeft turns name = some name' ∧ Printable name' := by
  induction turns with
  | zero => exact fun h _ => ⟨_, rfl, h⟩
  | succ turns ih =>
      intro name h hturns
      unfold shiftLeft
      dsimp only
      split
      · obtain ⟨name₁, hstore, -⟩ := store_some (a := name) (i := 15 - (turns + 1 : ℕ)) (by omega)
          (by omega) blank
        obtain ⟨name', hrest, hname'⟩ := ih (store_all h (by decide) hstore) (by omega)
        exact ⟨name', by rw [hstore]; exact hrest, hname'⟩
      · next hi =>
          obtain ⟨c, hc, hload⟩ := load_some (a := name) (i := 15 - (turns + 1 : ℕ) + 1) (by omega)
            (by omega)
          obtain ⟨name₁, hstore, -⟩ := store_some (a := name) (i := 15 - (turns + 1 : ℕ)) (by omega)
            (by omega) c
          obtain ⟨name', hrest, hname'⟩ := ih (store_all h (h c hc) hstore) (by omega)
          refine ⟨name', ?_, hname'⟩
          rw [hload]
          simp only [Option.bind_eq_bind, Option.bind_some]
          rw [hstore]
          exact hrest

/-- A character that can be typed. -/
theorem typed_ne {ch : ℤ} (h₀ : 0x20 ≤ ch) (h : ch ≤ 0x7e) : BitVec.ofInt 8 ch ≠ 0 := by
  intro hzero
  have hnat := congrArg BitVec.toNat hzero
  have hsize : ((2 ^ 8 : ℕ) : ℤ) = 256 := rfl
  have hnul : (0 : UChar).toNat = 0 := rfl
  rw [BitVec.toNat_ofInt, Int.emod_eq_of_lt (by omega) (by omega), hnul] at hnat
  omega

theorem typeKey_inside {s : Scan} (h : Inside s) {ch : ℤ} (h₀ : 0x20 ≤ ch) (hch : ch ≤ 0x7e) :
    ∃ s', typeKey s ch = some s' ∧ Inside s' := by
  have hleft := h.left
  have hright := h.right
  obtain ⟨name, hstore, -⟩ := store_some (a := s.deviceName) (i := s.curX - 22) (by omega) (by omega)
    (BitVec.ofInt 8 ch)
  obtain ⟨hcol, hcol'⟩ := columnRight_range hleft hright
  unfold typeKey
  rw [if_pos (by omega), hstore]
  exact ⟨_, rfl, hcol, hcol', h.row, store_all h.printable (typed_ne h₀ hch) hstore⟩

/-- **A key stays inside the field**, and keeps the cursor in it. -/
theorem scanKey_inside {s : Scan} (h : Edited s) (ch : ℤ) :
    ∃ s', scanKey s ch = some s' ∧ Inside s' := by
  have hyx : Inside s.getyx :=
    ⟨by rw [Scan.getyx, h.winX]; exact h.left, by rw [Scan.getyx, h.winX]; exact h.right,
      by rw [Scan.getyx, h.winY]; exact h.row, h.printable⟩
  unfold scanKey
  split
  · obtain ⟨hcol, hcol'⟩ := columnLeft_range h.left h.right
    exact ⟨_, rfl, hcol, hcol', h.row, h.printable⟩
  · split
    · obtain ⟨hcol, hcol'⟩ := columnRight_range h.left h.right
      exact ⟨_, rfl, hcol, hcol', h.row, h.printable⟩
    · split
      · exact ⟨_, rfl, h.left, h.right, h.row, h.printable⟩
      · split
        · obtain ⟨name, hname, hprint⟩ := eraseBefore_printable hyx.printable hyx.left hyx.right
          obtain ⟨hcol, hcol'⟩ := columnLeft_range hyx.left hyx.right
          dsimp only
          rw [hname]
          exact ⟨_, rfl, hcol, hcol', hyx.row, hprint⟩
        · split
          · have hleft := hyx.left
            obtain ⟨name, hname, hprint⟩ := shiftLeft_printable (15 - (s.getyx.curX - 22)).toNat
              hyx.printable (by omega)
            dsimp only
            rw [hname]
            exact ⟨_, rfl, hyx.left, hyx.right, hyx.row, hprint⟩
          · split
            · next hch => exact typeKey_inside hyx hch.1 hch.2
            · exact ⟨_, rfl, h.left, h.right, h.row, h.printable⟩

theorem placeCursor_edited {s : Scan} (h : Inside s) : Edited s.placeCursor := by
  have hleft := h.left
  have hright := h.right
  have hrow := h.row
  unfold Scan.placeCursor Scan.wmove WIN_PORT_H WIN_PORT_W
  rw [if_pos (by omega), if_pos (by omega)]
  exact ⟨⟨h.left, h.right, h.row, h.printable⟩, rfl, rfl⟩

theorem scanMove_edited {s : Scan} (h : Edited s) (ch : ℤ) :
    ∃ s', scanMove s ch = some s' ∧ Edited s' := by
  unfold scanMove
  split
  · exact ⟨s, rfl, h⟩
  · obtain ⟨s', hkey, hs'⟩ := scanKey_inside h ch
    rw [hkey]
    exact ⟨_, rfl, placeCursor_edited hs'⟩

theorem scanStart_edited {name : Name} (h : Printable name) : Edited (scanStart name) :=
  ⟨⟨show (22 : ℤ) ≤ 31 by decide, show (31 : ℤ) ≤ 36 by decide, rfl, h⟩, rfl, rfl⟩

/-- The keys of one call. -/
theorem scanMoves_edited {s : Scan} (h : Edited s) (keys : List ℤ) :
    ∃ s', keys.foldlM scanMove s = some s' ∧ Edited s' := by
  induction keys generalizing s with
  | nil => exact ⟨s, rfl, h⟩
  | cons ch keys ih =>
      obtain ⟨s₁, hmove, h₁⟩ := scanMove_edited h ch
      obtain ⟨s', hkeys, h'⟩ := ih h₁
      refine ⟨s', ?_, h'⟩
      rw [List.foldlM_cons, hmove]
      exact hkeys

/-- The calls before. -/
theorem scanDeviceName_printable {name : Name} (h : Printable name) (calls : List (List ℤ)) :
    ∃ name', calls.foldlM scanDeviceName name = some name' ∧ Printable name' := by
  induction calls generalizing name with
  | nil => exact ⟨name, rfl, h⟩
  | cons keys calls ih =>
      obtain ⟨s, hkeys, hs⟩ := scanMoves_edited (scanStart_edited h) keys
      obtain ⟨name', hcalls, h'⟩ := ih hs.printable
      refine ⟨name', ?_, h'⟩
      rw [List.foldlM_cons, scanDeviceName, hkeys]
      exact hcalls

/-! ### What is opened -/

/-- The array `fd`, when the columns from `n` on are copied. -/
structure Copied (name : Name) (n : ℕ) (hasChar : Bool) (fd : Name) : Prop where
  cells : fd.cells = List.replicate n 0 ++ padded 0 blank (name.cells.drop n)
  hasChar : hasChar = false ↔ trimmed blank (name.cells.drop n) = []

/-- A character that is copied. -/
theorem set_replicate_append {α : Type*} (n : ℕ) (a c : α) (rest : List α) :
    (List.replicate (n + 1) a ++ rest).set n c = List.replicate n a ++ c :: rest := by
  rw [List.replicate_succ', List.append_assoc, List.set_append_right _ _ (by simp)]
  simp

theorem copyName_spec (name : Name) (n : ℕ) : ∀ {hasChar : Bool} {fd : Name}, n ≤ 15 →
    Copied name n hasChar fd →
    ∃ fd', copyName name n hasChar fd = some fd' ∧ fd'.cells = padded 0 blank name.cells := by
  induction n with
  | zero =>
      intro hasChar fd _ h
      exact ⟨fd, rfl, h.cells⟩
  | succ n ih =>
      intro hasChar fd hn h
      have hlt : n < name.cells.length := by
        rw [name.length_eq]
        omega
      have hload : name.load n = some name.cells[n] := by
        rw [load_natCast, List.getElem?_eq_getElem hlt]
      have hdrop : name.cells.drop n = name.cells[n] :: name.cells.drop (n + 1) :=
        List.drop_eq_getElem_cons hlt
      unfold copyName
      rw [hload]
      simp only [Option.bind_eq_bind, Option.bind_some]
      split
      · next hskip =>
          have hnil : name.cells[n] = blank ∧ trimmed blank (name.cells.drop (n + 1)) = [] :=
            ⟨hskip.1, h.hasChar.mp hskip.2⟩
          refine ih (by omega) ⟨?_, ?_⟩
          · rw [h.cells, hdrop, padded_cons, if_pos hnil, List.replicate_succ', List.append_assoc]
            rfl
          · rw [hdrop, trimmed_cons, if_pos hnil]
            exact iff_of_true hskip.2 rfl
      · next hcopy =>
          have hne : ¬ (name.cells[n] = blank ∧ trimmed blank (name.cells.drop (n + 1)) = []) :=
            fun hnil => hcopy ⟨hnil.1, h.hasChar.mpr hnil.2⟩
          obtain ⟨fd₁, hstore, hcells⟩ := store_some (a := fd) (i := n) (by omega) (by omega)
            name.cells[n]
          rw [hstore]
          simp only [Option.bind_some]
          refine ih (by omega) ⟨?_, ?_⟩
          · rw [hcells, h.cells, Int.toNat_natCast, set_replicate_append, hdrop, padded_cons,
              if_neg hne]
          · rw [hdrop, trimmed_cons, if_neg hne]
            simp

/-- **What is copied**: the field without its trailing blanks, filled up with NUL. -/
theorem openDevice_spec (name : Name) :
    ∃ fd, openDevice name = some fd ∧ fd.cells = padded 0 blank name.cells := by
  refine copyName_spec name 15 le_rfl ⟨?_, ?_⟩
  · have hnil : name.cells.drop 15 = [] := List.drop_eq_nil_of_le name.length_eq.le
    rw [hnil]
    rfl
  · have hnil : name.cells.drop 15 = [] := List.drop_eq_nil_of_le name.length_eq.le
    rw [hnil]
    exact iff_of_true rfl rfl

/-- `open` gets the field without its trailing blanks, as a string that ends inside `fd`. -/
def Opens (name : Name) : Prop :=
  ∃ fd, openDevice name = some fd ∧ string 0 fd.cells = some (trimmed blank name.cells)

theorem opens_iff {name : Name} (h : Printable name) : Opens name ↔ name.load 14 = some blank := by
  obtain ⟨fd, hopen, hcells⟩ := openDevice_spec name
  have hlast : name.load 14 = name.cells.getLast? := by
    rw [show (14 : ℤ) = (14 : ℕ) from rfl, load_natCast, List.getLast?_eq_getElem?, name.length_eq]
  rw [hlast, ← string_padded_iff h, ← hcells]
  constructor
  · rintro ⟨fd', hopen', hstring⟩
    obtain rfl := Option.some.inj (hopen.symm.trans hopen')
    exact hstring
  · exact fun hstring => ⟨fd, hopen, hstring⟩

/-! ### The display -/

/-- The field has no NUL for the display to end at. -/
theorem scanTurn_none {s : Scan} (h : Edited s) (hopen : s.close = false) (ch : ℤ) :
    scanTurn s ch = none := by
  obtain ⟨s', hkey, hs'⟩ := scanKey_inside h ch
  unfold scanTurn
  rw [hopen, if_neg Bool.false_ne_true, hkey]
  simp only [Option.bind_eq_bind, Option.bind_some, printPortBasic]
  rw [string_none hs'.printable]
  rfl

/-- **The terminal opens the device that the user typed**, after any calls of `scanDeviceName` and
any keys in the last one.  The first display of the field already runs over its end.  Apart from the
display, every access is inside the field and the cursor stays in its columns; and the name is opened
just when the last column is blank. -/
theorem deviceName_opens_iff (calls : List (List ℤ)) (keys : List ℤ) :
    ∃ name s, calls.foldlM scanDeviceName deviceName = some name ∧
      keys.foldlM scanMove (scanStart name) = some s ∧
      (keys.foldlM scanTurn (scanStart name) ≠ none ↔ keys = []) ∧
      22 ≤ s.curX ∧ s.curX ≤ 36 ∧
      (Opens s.deviceName ↔ s.deviceName.load 14 = some blank) := by
  have hprintable : Printable deviceName := by
    unfold Printable deviceName
    decide
  obtain ⟨name, hcalls, hname⟩ := scanDeviceName_printable hprintable calls
  obtain ⟨s, hkeys, hs⟩ := scanMoves_edited (scanStart_edited hname) keys
  refine ⟨name, s, hcalls, hkeys, ?_, hs.left, hs.right, opens_iff hs.printable⟩
  cases keys with
  | nil => exact iff_of_true (Option.some_ne_none _) rfl
  | cons ch keys =>
      have hnone : (ch :: keys).foldlM scanTurn (scanStart name) = none := by
        rw [List.foldlM_cons, scanTurn_none (scanStart_edited hname) rfl]
        rfl
      exact iff_of_false (fun h => h hnone) (List.cons_ne_nil ch keys)

/-- A key that changes nothing is pressed: the display runs over the end of the field.  And with five
zeros typed from the sixth blank on, the name fills its array, and what `open` gets has no end. -/
theorem deviceName_overruns :
    [KEY_LEFT].foldlM scanTurn (scanStart deviceName) = none ∧
    ∃ s, [KEY_RIGHT, 0x30, 0x30, 0x30, 0x30, 0x30].foldlM scanMove (scanStart deviceName) = some s ∧
      trimmed blank s.deviceName.cells = s.deviceName.cells ∧ ¬ Opens s.deviceName := by
  refine ⟨rfl, _, rfl, rfl, ?_⟩
  rintro ⟨fd, hopen, hstring⟩
  obtain rfl := Option.some.inj (hopen.symm.trans (by rfl :
    openDevice _ = some ⟨[0x2f, 0x64, 0x65, 0x76, 0x2f, 0x74, 0x74, 0x79, 0x53, 0x30, 0x30, 0x30, 0x30,
      0x30, 0x30], rfl⟩))
  cases hstring

end SunixPci.Terminal
