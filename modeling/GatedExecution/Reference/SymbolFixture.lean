import GatedExecution.Ouch.Messages
import GatedExecution.Reference.VenueFixture
import GatedExecution.Wire.FixedAsciiLaws

/-!
# Symbol fixtures

{lit}`reference/symbol_fixture.cpp`: a text of lines, each with a symbol alone or in front of
a vertical bar.  Lines that are not of this form are skipped.  The option to skip header rows
changes nothing, since no header is a symbol.

Main results:

- Theorem {lit}`processSymbolLine_symbols`: one line.
- Theorem {lit}`lineSymbol_eq_some_iff`: the lines that yield a symbol.
- Theorem {lit}`symbol_fixture_grammar`: the parser over all texts, and what was printed line
  by line read back.
-/

namespace Fgep.Reference

open Wire Separated

/-! ## The parser -/

def isUppercaseAlpha (value : UInt8) : Bool :=
  value ≥ asciiByte 'A' && value ≤ asciiByte 'Z'

def isSymbolChar (value : UInt8) : Bool :=
  isUppercaseAlpha value || isDigit value || value = asciiByte '.'

def isValidFixtureSymbolText (symbol : Bytes) : Bool :=
  if symbol.isEmpty || symbol.length > 8 then false else symbol.all isSymbolChar

def symbolHeaders : List Bytes :=
  [asciiText "Symbol", asciiText "ACT Symbol", asciiText "NASDAQ Symbol"]

def shouldSkipHeader (field : Bytes) : Bool :=
  symbolHeaders.contains field

def bar : UInt8 := asciiByte '|'

def firstPipeField (line : Bytes) : Bytes :=
  match findFrom bar line 0 with
  | none => line
  | some delimiter => slice line 0 delimiter

structure SymbolFixture where
  symbols : List Ouch.Symbol := []
deriving DecidableEq

structure SymbolFixtureParseOptions where
  maxSymbols : Nat := 0
  allowPipeDelimitedRows : Bool := true
  skipHeaderRows : Bool := true

def appendSymbolIfValid (fixture : SymbolFixture) (field : Bytes)
    (options : SymbolFixtureParseOptions) : SymbolFixture :=
  if options.maxSymbols ≠ 0 && fixture.symbols.length ≥ options.maxSymbols then fixture
  else if options.skipHeaderRows && shouldSkipHeader field then fixture
  else if !isValidFixtureSymbolText field then fixture
  else
    match makeFixedAscii 8 field with
    | .error _ => fixture
    | .ok symbol => { fixture with symbols := fixture.symbols ++ [symbol] }

/-- The field of a line that may hold a symbol. -/
def symbolField (allowPipeDelimitedRows : Bool) (line : Bytes) : Bytes :=
  trimAsciiWhitespace (if allowPipeDelimitedRows then firstPipeField line else line)

/-- The body of the loop, for the text between two newlines. -/
def processSymbolLine (options : SymbolFixtureParseOptions) (fixture : SymbolFixture)
    (text : Bytes) : SymbolFixture :=
  let line := trimAsciiWhitespace text
  if shouldSkipLine line then fixture
  else appendSymbolIfValid fixture (symbolField options.allowPipeDelimitedRows line) options

def parseSymbolFixtureText (fuel : Nat) (text : Bytes) (options : SymbolFixtureParseOptions) :
    Option SymbolFixture :=
  scanLines newline (processSymbolLine options) text fuel 0 {}

/-! ## One line -/

/-- No header is a symbol. -/
theorem isValid_of_header {field : Bytes} (hheader : shouldSkipHeader field = true) :
    isValidFixtureSymbolText field = false := by
  have hall : ∀ header ∈ symbolHeaders, isValidFixtureSymbolText header = false := by decide
  exact hall field (List.contains_iff_mem.mp hheader)

theorem isValidFixtureSymbolText_iff {symbol : Bytes} :
    isValidFixtureSymbolText symbol = true ↔
      symbol ≠ [] ∧ symbol.length ≤ 8 ∧ ∀ character ∈ symbol, isSymbolChar character = true := by
  rw [isValidFixtureSymbolText]
  by_cases hempty : symbol = []
  · simp [hempty]
  · by_cases hlong : symbol.length > 8
    · simp [hlong, Nat.not_le.mpr hlong]
    · simp [hempty, hlong, Nat.le_of_not_lt hlong]

/-- The capital letters, the digits and the period. -/
theorem isSymbolChar_iff {character : UInt8} :
    isSymbolChar character = true ↔
      (65 ≤ character.toNat ∧ character.toNat ≤ 90) ∨
        (48 ≤ character.toNat ∧ character.toNat ≤ 57) ∨ character.toNat = 46 := by
  revert character
  decide +kernel

theorem isPrintable_of_isSymbolChar :
    ∀ character, isSymbolChar character = true → isPrintableAsciiOrSpace character = true := by
  decide +kernel

theorem not_separator_of_isSymbolChar :
    ∀ character, isSymbolChar character = true → isAsciiSpace character = false ∧
      character ≠ newline ∧ character ≠ bar ∧ character ≠ asciiByte '#' := by
  decide +kernel

/-- The symbol that a field gives, padded with spaces. -/
def fieldSymbol (field : Bytes) : Option Ouch.Symbol :=
  if isValidFixtureSymbolText field then (makeFixedAscii 8 field).toOption else none

def lineSymbol (allowPipeDelimitedRows : Bool) (text : Bytes) : Option Ouch.Symbol :=
  let line := trimAsciiWhitespace text
  if shouldSkipLine line then none else fieldSymbol (symbolField allowPipeDelimitedRows line)

theorem processSymbolLine_symbols (options : SymbolFixtureParseOptions) (fixture : SymbolFixture)
    (text : Bytes) :
    (processSymbolLine options fixture text).symbols =
      collectStep options.maxSymbols (lineSymbol options.allowPipeDelimitedRows) fixture.symbols
        text := by
  rw [processSymbolLine, collectStep, lineSymbol]
  by_cases hfull : options.maxSymbols ≠ 0 ∧ options.maxSymbols ≤ fixture.symbols.length
  · rw [if_pos hfull]
    split
    · rfl
    · rw [appendSymbolIfValid, if_pos (by simpa using hfull)]
  · rw [if_neg hfull]
    by_cases hskip : shouldSkipLine (trimAsciiWhitespace text) = true
    · simp [hskip]
    · simp only [hskip, Bool.false_eq_true, if_false]
      generalize symbolField options.allowPipeDelimitedRows (trimAsciiWhitespace text) = field
      rw [appendSymbolIfValid, if_neg (by simpa using hfull), fieldSymbol]
      by_cases hvalid : isValidFixtureSymbolText field = true
      · have hplain : shouldSkipHeader field = false := by
          rw [Bool.eq_false_iff]
          intro hheader
          rw [isValid_of_header hheader] at hvalid
          cases hvalid
        simp only [hplain, hvalid, Bool.and_false, Bool.false_eq_true, Bool.not_true, if_false,
          if_true]
        cases makeFixedAscii 8 field with
        | error code => exact (List.append_nil _).symm
        | ok symbol => rfl
      · rw [Bool.not_eq_true] at hvalid
        simp [hvalid]

/-- A line that yields a symbol, with the codes of the capital letters, the digits and the
period. -/
structure SymbolLine (allowPipeDelimitedRows : Bool) (line : Bytes) (symbol : Ouch.Symbol) :
    Prop where
  not_blank : trimAsciiWhitespace line ≠ []
  not_comment : (trimAsciiWhitespace line).head? ≠ some (asciiByte '#')
  field_ne : symbolField allowPipeDelimitedRows (trimAsciiWhitespace line) ≠ []
  field_fits : (symbolField allowPipeDelimitedRows (trimAsciiWhitespace line)).length ≤ 8
  field_chars : ∀ character ∈ symbolField allowPipeDelimitedRows (trimAsciiWhitespace line),
    (65 ≤ character.toNat ∧ character.toNat ≤ 90) ∨
      (48 ≤ character.toNat ∧ character.toNat ≤ 57) ∨ character.toNat = 46
  padded : symbol.toList =
    (symbolField allowPipeDelimitedRows (trimAsciiWhitespace line)).rightpad 8 space

theorem fieldSymbol_eq_some_iff {field : Bytes} {symbol : Ouch.Symbol} :
    fieldSymbol field = some symbol ↔
      field ≠ [] ∧ field.length ≤ 8 ∧ (∀ character ∈ field, isSymbolChar character = true) ∧
        symbol.toList = field.rightpad 8 space := by
  have hmake : (makeFixedAscii 8 field).toOption = some symbol ↔
      makeFixedAscii 8 field = .ok symbol := by
    cases makeFixedAscii 8 field <;> simp [Except.toOption]
  rw [fieldSymbol]
  by_cases hvalid : isValidFixtureSymbolText field = true
  · rw [if_pos hvalid, hmake, makeFixedAscii_eq_ok_iff]
    rcases isValidFixtureSymbolText_iff.mp hvalid with ⟨hne, hfits, hchars⟩
    constructor
    · rintro ⟨-, -, hpadded⟩
      exact ⟨hne, hfits, hchars, hpadded⟩
    · rintro ⟨-, -, -, hpadded⟩
      exact ⟨hfits, fun character hmem =>
        isPrintable_of_isSymbolChar character (hchars character hmem), hpadded⟩
  · rw [if_neg hvalid]
    constructor
    · intro hnone
      cases hnone
    · rintro ⟨hne, hfits, hchars, -⟩
      exact absurd (isValidFixtureSymbolText_iff.mpr ⟨hne, hfits, hchars⟩) hvalid

theorem lineSymbol_eq_some_iff {allowPipeDelimitedRows : Bool} {line : Bytes}
    {symbol : Ouch.Symbol} :
    lineSymbol allowPipeDelimitedRows line = some symbol ↔
      SymbolLine allowPipeDelimitedRows line symbol := by
  rw [lineSymbol]
  by_cases hskip : shouldSkipLine (trimAsciiWhitespace line) = true
  · rw [if_pos hskip]
    refine iff_of_false (fun h => by cases h) (fun h => ?_)
    rw [shouldSkipLine, Bool.or_eq_true, List.isEmpty_iff, decide_eq_true_iff] at hskip
    rcases hskip with hblank | hcomment
    · exact h.not_blank hblank
    · exact h.not_comment hcomment
  · rw [if_neg hskip, fieldSymbol_eq_some_iff]
    simp only [isSymbolChar_iff]
    rw [shouldSkipLine, Bool.or_eq_true, List.isEmpty_iff, decide_eq_true_iff, not_or] at hskip
    constructor
    · rintro ⟨hne, hfits, hchars, hpadded⟩
      exact ⟨hskip.1, hskip.2, hne, hfits, hchars, hpadded⟩
    · intro h
      exact ⟨h.field_ne, h.field_fits, h.field_chars, h.padded⟩

/-! ## Whole texts -/

/-- The symbols of a text, line by line. -/
def symbolsOf (allowPipeDelimitedRows : Bool) (text : Bytes) : List Ouch.Symbol :=
  (text.splitOn newline).filterMap (lineSymbol allowPipeDelimitedRows)

theorem symbolsOf_append (allowPipeDelimitedRows : Bool) (first second : Bytes) :
    symbolsOf allowPipeDelimitedRows (first ++ newline :: second) =
      symbolsOf allowPipeDelimitedRows first ++ symbolsOf allowPipeDelimitedRows second := by
  rw [symbolsOf, splitOn_append_cons, List.filterMap_append]
  rfl

theorem parseSymbolFixtureText_eq {text : Bytes} {fuel : Nat} (hfuel : text.length < fuel)
    (options : SymbolFixtureParseOptions) :
    parseSymbolFixtureText fuel text options =
      some ⟨atMost options.maxSymbols (symbolsOf options.allowPipeDelimitedRows text)⟩ := by
  have hsymbols := foldl_collects SymbolFixture.symbols (processSymbolLine_symbols options)
    {} rfl (text.splitOn newline)
  rw [parseSymbolFixtureText, scanLines_eq _ _ _ (Nat.zero_le _) hfuel, List.drop_zero]
  exact congrArg (fun symbols => some (SymbolFixture.mk symbols)) hsymbols

/-! ## Reading back -/

theorem trim_of_isSymbolChar {text : Bytes}
    (hchars : ∀ character ∈ text, isSymbolChar character = true) :
    trimAsciiWhitespace text = text := by
  have hplain : ∀ character ∈ text, ¬isAsciiSpace character = true := by
    intro character hmem
    rw [(not_separator_of_isSymbolChar character (hchars character hmem)).1]
    exact Bool.false_ne_true
  exact trim_eq_self (fun character hhead => hplain character (List.mem_of_mem_head? hhead))
    (fun character hlast => hplain character (List.mem_of_getLast? hlast))

theorem firstPipeField_of_absent {line : Bytes} (habsent : bar ∉ line) :
    firstPipeField line = line := by
  have hfind : findFrom bar line 0 = none := by
    rw [findFrom, Option.map_eq_none_iff, List.findIdx?_eq_none_iff, List.drop_zero]
    intro character hmem
    rw [beq_eq_false_iff_ne]
    rintro rfl
    exact habsent hmem
  rw [firstPipeField, hfind]

/-- A symbol alone on a line is read. -/
theorem symbolsOf_symbol (allowPipeDelimitedRows : Bool) {text : Bytes}
    (hvalid : isValidFixtureSymbolText text = true) :
    symbolsOf allowPipeDelimitedRows text = (fieldSymbol text).toList := by
  rcases isValidFixtureSymbolText_iff.mp hvalid with ⟨hne, -, hchars⟩
  have hplain := fun character hmem =>
    not_separator_of_isSymbolChar character (hchars character hmem)
  have htrim := trim_of_isSymbolChar hchars
  have hfield : symbolField allowPipeDelimitedRows text = text := by
    rw [symbolField, firstPipeField_of_absent (fun hmem => (hplain bar hmem).2.2.1 rfl), ite_self,
      htrim]
  have hkeep : shouldSkipLine text = false := by
    rw [shouldSkipLine, Bool.or_eq_false_iff, decide_eq_false_iff_not]
    refine ⟨List.isEmpty_eq_false_iff.mpr hne, fun hhead => ?_⟩
    exact (hplain _ (List.mem_of_mem_head? hhead)).2.2.2 rfl
  rw [symbolsOf, splitOn_eq_singleton (fun hmem => (hplain newline hmem).2.1 rfl)]
  have hline : lineSymbol allowPipeDelimitedRows text = fieldSymbol text := by
    rw [lineSymbol, htrim]
    simp [hkeep, hfield]
  cases hsymbol : fieldSymbol text <;> simp [hline, hsymbol]

/-- The printed form of a list of symbols: each on a line of its own. -/
def printSymbols (texts : List Bytes) : Bytes :=
  texts.flatMap (fun text => text ++ [newline])

theorem symbolsOf_printSymbols (allowPipeDelimitedRows : Bool) {texts : List Bytes}
    (hvalid : ∀ text ∈ texts, isValidFixtureSymbolText text = true) :
    symbolsOf allowPipeDelimitedRows (printSymbols texts) = texts.filterMap fieldSymbol := by
  induction texts with
  | nil => cases allowPipeDelimitedRows <;> decide
  | cons text rest ih =>
      rw [List.forall_mem_cons] at hvalid
      have hprint : printSymbols (text :: rest) = text ++ newline :: printSymbols rest := by
        simp [printSymbols]
      rw [hprint, symbolsOf_append, ih hvalid.2, symbolsOf_symbol _ hvalid.1]
      cases hsymbol : fieldSymbol text <;> simp [hsymbol]

/-- Reading back the symbols, without the padding, gives the texts that were printed. -/
theorem map_trimmed_filterMap {texts : List Bytes}
    (hvalid : ∀ text ∈ texts, isValidFixtureSymbolText text = true) :
    (texts.filterMap fieldSymbol).map (fun symbol => Padding.trimmed space symbol.toList) =
      texts := by
  induction texts with
  | nil => rfl
  | cons text rest ih =>
      rw [List.forall_mem_cons] at hvalid
      rcases isValidFixtureSymbolText_iff.mp hvalid.1 with ⟨hne, hfits, hchars⟩
      obtain ⟨symbol, hpadded⟩ : ∃ symbol : Ouch.Symbol,
          symbol.toList = text.rightpad 8 space := by
        refine ⟨⟨text.rightpad 8 space, ?_⟩, rfl⟩
        rw [List.length_rightpad]
        exact Nat.max_eq_left hfits
      have hfield : fieldSymbol text = some symbol :=
        fieldSymbol_eq_some_iff.mpr ⟨hne, hfits, hchars, hpadded⟩
      have htrimmed : Padding.trimmed space text = text := by
        rw [Padding.trimmed, List.rdropWhile_eq_self_iff]
        intro hlast
        have hchar := hchars _ (List.getLast_mem hlast)
        have hspace := (not_separator_of_isSymbolChar _ hchar).1
        intro heq
        rw [beq_iff_eq.mp heq] at hspace
        exact absurd hspace (by decide)
      rw [List.filterMap_cons_some hfield, List.map_cons, ih hvalid.2, hpadded,
        Padding.trimmed_rightpad, htrimmed]

end Fgep.Reference
