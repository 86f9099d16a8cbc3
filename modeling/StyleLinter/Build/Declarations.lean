import StyleLinter.Text.Word

/-!
# Build files made of declarations

A build file made of declarations is a program, which the linter does not run: it looks for the
lines that declare the package and the libraries.

Comments are taken out before that, first those between `/-` and `-/`, which **do not nest** here,
and then those from `--` to the end of a line. A declaration begins at the start of a line, perhaps
after blanks, and a blank may be a line ending. Its keyword is followed by a name, which may stand
in guillemets; an attribute may stand before the declaration of a library.
-/

namespace StyleLinter.Build.Declarations

/-! ### Comments -/

/-- The text without the comments between `/-` and `-/`. -/
def withoutBlocks (t : Text) : Text :=
  match _h : Text.cutAt? "/-" t with
  | none => t
  | some (front, r) =>
    match _h' : Text.cutAt? "-/" r with
    | none => t
    | some (_, rest) => front ++ withoutBlocks rest
termination_by t.length
decreasing_by
  have h1 := congrArg List.length (Text.eq_of_cutAt? _h)
  have h2 := congrArg List.length (Text.eq_of_cutAt? _h')
  simp only [List.length_append] at h1 h2
  have : ("/-".toList).length = 2 := rfl
  omega

/-- A line without the comment at its end. -/
def beforeComment (line : Text) : Text :=
  match Text.cutAt? "--" line with
  | some (front, _) => front
  | none => line

/-- The text without comments. -/
def withoutComments (t : Text) : Text :=
  Text.joinWith "\n" ((Text.pieces '\n' (withoutBlocks t)).map beforeComment)

/-! ### Declarations -/

/-- The characters of a declared name. -/
def isNameChar (c : Char) : Bool := Text.isWord c || c == '.' || c == '-'

/-- The name that a keyword declares, and what follows it. -/
def declared? (keyword t : Text) : Option (Text × Text) :=
  match Text.after? keyword t with
  | none => none
  | some r =>
    let name := Text.without "«" (Text.trimStart r)
    if (r.head?.any Text.isBlank) && name.head?.any isNameChar then
      some (name.takeWhile isNameChar, name.dropWhile isNameChar)
    else none

theorem ne_nil_of_declared? {keyword t name rest : Text}
    (h : declared? keyword t = some (name, rest)) : name ≠ [] := by
  unfold declared? at h
  split at h
  · simp at h
  · simp only [Option.ite_none_right_eq_some, Bool.and_eq_true, Option.some.injEq,
      Prod.mk.injEq] at h
    obtain ⟨⟨-, hc⟩, rfl, -⟩ := h
    intro hn
    rw [Option.any_eq_true] at hc
    obtain ⟨c, hc, hname⟩ := hc
    obtain ⟨r, hr⟩ := List.head?_eq_some_iff.mp hc
    rw [hr, List.takeWhile_cons, if_pos hname] at hn
    simp at hn

/-- The text without the attribute it begins with and the blanks after it. -/
def afterAttribute (t : Text) : Text :=
  match Text.after? "@[" t with
  | none => t
  | some r =>
    match Text.cutAt? "]" r with
    | none => t
    | some (_, rest) => Text.trimStart rest

/-- The package that is declared at the start of a text. -/
def packageAt? (t : Text) : Option (Text × Text) := declared? "package" (Text.trimStart t)

/-- The library that is declared at the start of a text. -/
def libraryAt? (t : Text) : Option (Text × Text) :=
  declared? "lean_lib" (afterAttribute (Text.trimStart t))

/-- What follows each line ending. -/
def laterStarts : Text → List Text
  | [] => []
  | c :: r => if c = '\n' then r :: laterStarts r else laterStarts r

/-- The text from the start of each line on. -/
def starts (t : Text) : List Text := t :: laterStarts t

/-- The libraries that are declared at these starts. A start inside of a declaration does not
count. -/
def librariesAt : List Text → List Text
  | [] => []
  | s :: later =>
    match libraryAt? s with
    | none => librariesAt later
    | some (name, rest) => name :: librariesAt (later.dropWhile (rest.length < ·.length))
termination_by starts => starts.length
decreasing_by
  · simp
  · simpa using Nat.lt_succ_of_le (List.dropWhile_suffix _).length_le

theorem ne_nil_of_mem_librariesAt {starts : List Text} {l : Text} (h : l ∈ librariesAt starts) :
    l ≠ [] := by
  fun_induction librariesAt starts with
  | case1 => simp at h
  | case2 s later hs ih => exact ih h
  | case3 s later name rest hs ih =>
    rcases List.mem_cons.mp h with rfl | h
    · exact ne_nil_of_declared? hs
    · exact ih h

/-- The first package that a build file declares. -/
def package? (t : Text) : Option Text :=
  ((starts (withoutComments t)).findSome? packageAt?).map (·.1)

/-- The libraries that a build file declares, in order. -/
def libraries (t : Text) : List Text := librariesAt (starts (withoutComments t))

end StyleLinter.Build.Declarations
