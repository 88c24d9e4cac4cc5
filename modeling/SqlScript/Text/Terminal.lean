/-!
# Texts without terminal controls

A terminal does not show every character that it receives.  An escape character
begins a control sequence, which sets a colour, moves the cursor or hands a string to
the device, and control characters outside such sequences act by themselves.
`Terminal.plain` leaves out all of this and keeps what is shown, together with the
characters that lay out lines.

A reader of the text is always in one of the states of `Mode`.  A sequence may be cut
off by a line end; the text behind it is then shown until the next control, which the
sequence takes up again.  `plain_eq_self` says that a text without controls stays as
it is.
-/

namespace SqlScript.Terminal

/-- Within which control sequence a character stands. -/
inductive Mode where
  /-- Outside all sequences. -/
  | ground
  /-- After an escape character. -/
  | escape
  /-- After an escape character and an intermediate one. -/
  | escapeIntermediate
  /-- In a sequence that sets colours or moves the cursor. -/
  | control
  /-- Before the first parameter of a string for the device. -/
  | device
  | deviceParameter
  | deviceIntermediate
  /-- In a string that ends at the byte `9C`. -/
  | string
  /-- In a string that ends at a bell, such as the title of a window. -/
  | title
  deriving DecidableEq, Repr

/-- Characters that lay out lines. -/
def isLayout (c : Char) : Bool :=
  c = '\t' || c = '\n' || c = '\x0c' || c = '\r'

/-- Characters that are shown outside all sequences. -/
def isShown (c : Char) : Bool :=
  isLayout c || (' ' ≤ c && c != '\x7f')

/-- Whether the byte `9C` occurs after the first byte of the character in UTF-8. -/
def holdsStringEnd (c : Char) : Bool :=
  let n := c.toNat
  (0x80 ≤ n && n % 64 == 0x1c) || (0x800 ≤ n && n / 64 % 64 == 0x1c)
    || (0x10000 ≤ n && n / 4096 % 64 == 0x1c)

namespace Mode

/-- The state after a character between the blank and the tilde. -/
def afterGraphic (mode : Mode) (c : Char) : Mode :=
  let intermediate := c < '0'
  let parameter := c < '@'
  match mode with
  | ground => ground
  | escape =>
    if intermediate then escapeIntermediate
    else if c = '[' then control
    else if c = ']' then title
    else if c = 'P' then device
    else if c = 'X' || c = '^' || c = '_' then string
    else ground
  | escapeIntermediate => if intermediate then escapeIntermediate else ground
  | control => if parameter then control else ground
  | device =>
    if intermediate then deviceIntermediate
    else if parameter then deviceParameter
    else string
  | deviceParameter =>
    if intermediate then deviceIntermediate
    else if c < '<' then deviceParameter
    else string
  | deviceIntermediate => if intermediate then deviceIntermediate else string
  | string => string
  | title => title

/-- The state after a character. -/
def after (mode : Mode) (c : Char) : Mode :=
  if c = '\x1b' then escape
  else if c = '\x18' || c = '\x1a' then ground
  else if ' ' ≤ c && c < '\x7f' then mode.afterGraphic c
  else if mode = title && c = '\x07' then ground
  else if mode = string && holdsStringEnd c then ground
  else mode

/-- Whether a character is shown.  Most sequences leave it to the terminal what to do
with the characters that lay out lines. -/
def shows (mode : Mode) (c : Char) : Bool :=
  match mode with
  | ground => isShown c
  | escape | escapeIntermediate | control => isLayout c
  | device | deviceParameter | deviceIntermediate | string | title => false

end Mode

/-- What is shown of a text that begins in a state; `showing` when the character
before it is shown. -/
def plainFrom (mode : Mode) (showing : Bool) : List Char → List Char
  | [] => []
  | c :: s =>
    if showing && isShown c then
      c :: plainFrom (if c < '\x7f' then mode else .ground) true s
    else if mode.shows c then c :: plainFrom (mode.after c) true s
    else plainFrom (mode.after c) false s

/-- What a terminal shows of a text, with the characters that lay out lines. -/
def plain (s : List Char) : List Char :=
  plainFrom .ground false s

/-! ### Texts without controls -/

theorem after_ground_of_isShown {c : Char} (h : isShown c = true) :
    Mode.ground.after c = .ground := by
  have hne : c ≠ '\x1b' := by
    rintro rfl
    exact absurd h (by decide)
  unfold Mode.after
  rw [if_neg hne]
  split
  · rfl
  split
  · rfl
  simp

theorem plainFrom_ground (showing : Bool) {s : List Char} (h : ∀ c ∈ s, isShown c = true) :
    plainFrom .ground showing s = s := by
  induction s generalizing showing with
  | nil => rfl
  | cons c s ih =>
    have hc : isShown c = true := h c List.mem_cons_self
    have hs : ∀ c ∈ s, isShown c = true := fun d hd => h d (List.mem_cons_of_mem c hd)
    cases showing <;>
      simp [plainFrom, hc, Mode.shows, after_ground_of_isShown hc, ih true hs]

/-- A text without controls is shown as it is. -/
theorem plain_eq_self {s : List Char} (h : ∀ c ∈ s, isShown c = true) : plain s = s :=
  plainFrom_ground false h

example : plain "a\x1b[1mb\x07c\x1b]0;t\x07d".toList = "abcd".toList := by decide

end SqlScript.Terminal
