import ResourceGraph.Text.Cut

/-! # Words of a command line

A command line is a list of words: switches with their values, and operands.

* `classify` says what each word is.  A switch may be shortened as long as it stays the only one
  that fits, and a value may be attached to it.
* `events` puts switches and operands in the order in which they take effect.  Words that nothing
  takes are stray; where a switch and its values do not fit, the line is refused.
-/

namespace ResourceGraph.CommandLine

/-! ## Switches -/

/-- How many values a switch takes: none, one, or as many as follow but at least one. -/
inductive Arity where
  | flag
  | single
  | several
deriving DecidableEq, Inhabited

/-- A switch, known by a key, with its names. -/
structure Switch (κ : Type) where
  key : κ
  names : List String
  arity : Arity

/-- A value attached to a switch, behind an equals sign or directly. -/
structure Attached where
  equals : Bool
  text : List Char

inductive Role (κ : Type) where
  | plain
  /-- The mark behind which there are no switches. -/
  | divider
  /-- A switch by the name given, with a value attached or not. -/
  | switch (s : Switch κ) (isLong : Bool) (attached : Option Attached)
  /-- A word that looks like a switch and is none. -/
  | unknown

structure Word (κ : Type) where
  text : String
  role : Role κ

variable {κ : Type}

/-! ## Roles -/

def namesOf (switches : List (Switch κ)) : List (List Char × Switch κ) :=
  switches.flatMap fun s => s.names.map fun name => (name.toList, s)

def isLongName (name : List Char) : Bool := ['-', '-'].isPrefixOf name

/-- Text before the first equals sign, and what is attached behind it. -/
def splitEquals (cs : List Char) : List Char × Option Attached :=
  match Text.pieces '=' cs with
  | name :: value :: more => (name, some ⟨true, Text.join '=' (value :: more)⟩)
  | _ => (cs, none)

/-- The roles that a word may have as a shortened switch or as a switch with a value attached. -/
def candidates (switches : List (Switch κ)) (cs : List Char) : List (Role κ) :=
  if isLongName cs then
    let (start, attached) := splitEquals cs
    (namesOf switches).filterMap fun (name, s) =>
      if start.isPrefixOf name then some (.switch s (isLongName name) attached) else none
  else
    (namesOf switches).filterMap fun (name, s) =>
      if name = cs.take 2 then some (.switch s (isLongName name) (some ⟨false, cs.drop 2⟩))
      else if cs.isPrefixOf name then some (.switch s (isLongName name) none)
      else none

/-- Whether text is a negative number in digits, with a point or without. -/
def isNegativeNumber (cs : List Char) : Bool :=
  match cs with
  | '-' :: rest =>
    let whole := rest.takeWhile Char.isDigit
    match rest.dropWhile Char.isDigit with
    | [] => !whole.isEmpty
    | '.' :: fraction => !fraction.isEmpty && fraction.all Char.isDigit
    | _ => false
  | _ => false

/-- The role of a word that starts with a dash, is no full name of a switch and has more than one
    character; none if several switches fit. -/
def roleOfDashed (switches : List (Switch κ)) (cs : List Char) : Option (Role κ) :=
  let (name, attached) := splitEquals cs
  match attached, (namesOf switches).find? fun entry => entry.1 = name with
  | some value, some (name, s) => some (.switch s (isLongName name) (some value))
  | _, _ =>
    match candidates switches cs with
    | [] => some (if isNegativeNumber cs || cs.contains ' ' then .plain else .unknown)
    | [role] => some role
    | _ => none

/-- The role of a word before the divider; none if several switches fit. -/
def roleOf (switches : List (Switch κ)) (text : String) : Option (Role κ) :=
  match text.toList with
  | '-' :: rest =>
    match (namesOf switches).find? fun entry => entry.1 = '-' :: rest with
    | some (name, s) => some (.switch s (isLongName name) none)
    | none => if rest.isEmpty then some .plain else roleOfDashed switches ('-' :: rest)
  | _ => some .plain

/-- The words with their roles; none if several switches fit one of them. -/
def classify (switches : List (Switch κ)) : List String → Option (List (Word κ))
  | [] => some []
  | text :: rest =>
    if text = "--" then
      some (⟨text, .divider⟩ :: rest.map (⟨·, .plain⟩))
    else
      match roleOf switches text, classify switches rest with
      | some role, some words => some (⟨text, role⟩ :: words)
      | _, _ => none

/-! ## Events -/

inductive Event (κ : Type) where
  | switched (key : κ) (values : List String)
  /-- The operand, with all words behind it where the operand takes them. -/
  | operand (words : List String)
  /-- A word that nothing takes. -/
  | stray (word : String)
  /-- A switch and its values do not fit; nothing happens after it. -/
  | refused

def valuesFor (arity : Arity) (words : List (Word κ)) : Option (List String) :=
  let plain := (words.takeWhile fun w => match w.role with
    | .plain => true
    | _ => false).map Word.text
  match arity, plain with
  | .flag, _ => some []
  | .single, value :: _ => some [value]
  | .several, value :: more => some (value :: more)
  | _, [] => none

def switchAlone (s : Switch κ) (words : List (Word κ)) : List (Event κ) × Nat :=
  match valuesFor s.arity words with
  | some values => ([.switched s.key values], values.length)
  | none => ([.refused], 0)

/-- What a switch does with a value attached, and how many words it takes.  Behind a short flag more
    short switches may stand. -/
def switchAttached (switches : List (Switch κ)) (words : List (Word κ)) (s : Switch κ)
    (isLong equals : Bool) : List Char → List (Event κ) × Nat
  | [] =>
    if s.arity = .flag then ([.refused], 0) else ([.switched s.key [""]], 0)
  | c :: cs =>
    if s.arity ≠ .flag then ([.switched s.key [String.ofList (c :: cs)]], 0)
    else if isLong || equals || c == '-' then ([.refused], 0)
    else
      let (more, taken) : List (Event κ) × Nat :=
        match (namesOf switches).find? fun entry => entry.1 = ['-', c] with
        | none => ([.stray (String.ofList ('-' :: c :: cs))], 0)
        | some (_, next) =>
          if cs.isEmpty then switchAlone next words
          else if cs.head? = some '=' then
            switchAttached switches words next false true (cs.drop 1)
          else switchAttached switches words next false false cs
      if more.any fun e => match e with
        | .refused => true
        | _ => false
      then ([.refused], 0)
      else (.switched s.key [] :: more, taken)
termination_by cs => cs.length
decreasing_by
  all_goals simp only [List.length_cons, List.length_drop]
  all_goals omega

def switchEvents (switches : List (Switch κ)) (words : List (Word κ)) (s : Switch κ)
    (isLong : Bool) : Option Attached → List (Event κ) × Nat
  | none => switchAlone s words
  | some attached => switchAttached switches words s isLong attached.equals attached.text

/-- The words without a divider at their front. -/
def dropDivider : List (Word κ) → List (Word κ)
  | ⟨_, .divider⟩ :: rest => rest
  | words => words

theorem length_dropDivider (words : List (Word κ)) : (dropDivider words).length ≤ words.length := by
  unfold dropDivider
  split <;> simp

/-- The events of a line in which one operand may be `expected`, a `greedy` one to its end. -/
def events (switches : List (Switch κ)) (greedy expected : Bool) :
    List (Word κ) → List (Event κ)
  | [] => []
  | word :: rest =>
    match word.role with
    | .switch s isLong attached =>
      let (happened, taken) := switchEvents switches rest s isLong attached
      happened ++ events switches greedy expected (rest.drop taken)
    | .unknown => .stray word.text :: events switches greedy expected rest
    | .plain =>
      if !expected then .stray word.text :: events switches greedy expected rest
      else if greedy then [.operand (word.text :: rest.map Word.text)]
      else .operand [word.text] :: events switches greedy false (dropDivider rest)
    | .divider =>
      match rest with
      | [] => [.stray word.text]
      | next :: after =>
        if !expected then .stray word.text :: events switches greedy expected (next :: after)
        else if greedy then [.operand (word.text :: (next :: after).map Word.text)]
        else .operand [next.text] :: events switches greedy false after
termination_by words => words.length
decreasing_by
  · simp only [List.length_cons, List.length_drop]
    omega
  · simp
  · simp
  · have := length_dropDivider rest
    simp only [List.length_cons]
    omega
  · simp
  · simp only [List.length_cons]
    omega

end ResourceGraph.CommandLine
