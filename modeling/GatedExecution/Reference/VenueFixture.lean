import GatedExecution.Instrument.Directory
import GatedExecution.Lib.LineScan

/-!
# Venue fixtures

{lit}`reference/venue_fixture.cpp`: a text of lines, each with a venue id and a market
identifier code (MIC) in its first two comma fields.  Lines that are not of this form are
skipped.  The scanning loop is given fuel, and enough of it is shown to be one round for
every byte of the text.

Main results:

- Theorem {lit}`trimAsciiWhitespace_eq_iff`: what is trimmed off a text.
- Theorem {lit}`csvField_eq`: a field is the trimmed piece between two commas.
- Theorem {lit}`parseVenueId_eq_some_iff`: the ids that are read, by their exact value.
- Theorem {lit}`lineVenue_eq_some_iff`: the lines that yield a venue.
- Theorem {lit}`venue_fixture_grammar`: the parser over all texts.
-/

namespace Fgep.Venue

open Wire

abbrev Mic := List.Vector UInt8 4

def isValidMicChar (value : UInt8) : Bool :=
  (value ≥ asciiByte 'A' && value ≤ asciiByte 'Z')
    || (value ≥ asciiByte '0' && value ≤ asciiByte '9')

def makeMic (text : Bytes) : Result Mic :=
  if hlength : text.length = 4 then
    if text.all isValidMicChar then .ok ⟨text, hlength⟩ else .error .invalidArgument
  else .error .invalidArgument

set_option linter.dupNamespace false in
structure Venue where
  id : VenueId
  mic : Mic
deriving DecidableEq

end Fgep.Venue

namespace Fgep.Reference

open Wire Separated

/-! ## Characters and fields -/

def isAsciiSpace (value : UInt8) : Bool :=
  value = asciiByte ' ' || value = asciiByte '\t' || value = asciiByte '\r'
    || value = asciiByte '\n'

def trimAsciiWhitespace (text : Bytes) : Bytes :=
  trim isAsciiSpace text

def isDigit (value : UInt8) : Bool :=
  value ≥ asciiByte '0' && value ≤ asciiByte '9'

def asciiText (text : String) : Bytes :=
  text.toList.map asciiByte

def shouldSkipLine (line : Bytes) : Bool :=
  line.isEmpty || line.head? = some (asciiByte '#')

def isValidVenueIdText (text : Bytes) : Bool :=
  let text := trimAsciiWhitespace text
  if text.isEmpty then false else text.all isDigit

def isVenueHeaderRow (firstField : Bytes) : Bool :=
  let firstField := trimAsciiWhitespace firstField
  firstField = asciiText "venue_id" || firstField = asciiText "VenueId"
    || firstField = asciiText "id" || firstField = asciiText "ID"

/-- The loop of {lit}`csv_field`: where the field starts, once the commas before it have
been passed. -/
def fieldStart (line : Bytes) : Nat → Nat → Option Nat
  | 0, start => some start
  | fieldIndex + 1, start =>
      match findFrom (asciiByte ',') line start with
      | none => none
      | some delimiter => fieldStart line fieldIndex (delimiter + 1)

def csvField (line : Bytes) (fieldIndex : Nat) : Bytes :=
  match fieldStart line fieldIndex 0 with
  | none => []
  | some start =>
      match findFrom (asciiByte ',') line start with
      | none => trimAsciiWhitespace (line.drop start)
      | some fieldEnd => trimAsciiWhitespace (slice line start (fieldEnd - start))

/-! ## Venue ids -/

def maxVenueId : UInt32 := 65535

/-- One round of the loop of {lit}`parse_venue_id`. -/
def addDigit (value : UInt32) (character : UInt8) : Option UInt32 :=
  let digit := character.toUInt32 - (asciiByte '0').toUInt32
  if value > (maxVenueId - digit) / 10 then none else some (value * 10 + digit)

def parseVenueId (text : Bytes) : Option Venue.VenueId :=
  let text := trimAsciiWhitespace text
  if !isValidVenueIdText text then none
  else
    match text.foldlM addDigit 0 with
    | none => none
    | some value => if value = 0 then none else some value.toUInt16

/-! ## The parser -/

structure VenueFixture where
  venues : List Venue.Venue := []
deriving DecidableEq

structure VenueFixtureParseOptions where
  maxVenues : Nat := 0
  skipHeaderRows : Bool := true

def appendVenueIfValid (fixture : VenueFixture) (idField micField : Bytes)
    (options : VenueFixtureParseOptions) : VenueFixture :=
  if options.maxVenues ≠ 0 && fixture.venues.length ≥ options.maxVenues then fixture
  else
    let idField := trimAsciiWhitespace idField
    let micField := trimAsciiWhitespace micField
    if options.skipHeaderRows && isVenueHeaderRow idField then fixture
    else
      match parseVenueId idField with
      | none => fixture
      | some venueId =>
          match Venue.makeMic micField with
          | .error _ => fixture
          | .ok mic => { fixture with venues := fixture.venues ++ [⟨venueId, mic⟩] }

/-- The body of the loop, for the text between two newlines. -/
def processLine (options : VenueFixtureParseOptions) (fixture : VenueFixture) (text : Bytes) :
    VenueFixture :=
  let line := trimAsciiWhitespace text
  if shouldSkipLine line then fixture
  else appendVenueIfValid fixture (csvField line 0) (csvField line 1) options

def newline : UInt8 := asciiByte '\n'

def parseVenueFixtureText (fuel : Nat) (text : Bytes) (options : VenueFixtureParseOptions) :
    Option VenueFixture :=
  scanLines newline (processLine options) text fuel 0 {}

/-! ## Classes of characters -/

theorem isDigit_iff {character : UInt8} :
    isDigit character = true ↔ 48 ≤ character.toNat ∧ character.toNat ≤ 57 := by
  have hzero : (asciiByte '0').toNat = 48 := by decide
  have hnine : (asciiByte '9').toNat = 57 := by decide
  rw [isDigit, Bool.and_eq_true, decide_eq_true_eq, decide_eq_true_eq, ge_iff_le,
    UInt8.le_iff_toNat_le, UInt8.le_iff_toNat_le, hzero, hnine]

theorem isValidMicChar_iff {character : UInt8} :
    Venue.isValidMicChar character = true ↔
      (65 ≤ character.toNat ∧ character.toNat ≤ 90) ∨
        (48 ≤ character.toNat ∧ character.toNat ≤ 57) := by
  revert character
  decide +kernel

/-- The codes of the tab, the newline, the carriage return and the space. -/
def spaceCodes : List Nat := [9, 10, 13, 32]

theorem isAsciiSpace_iff {character : UInt8} :
    isAsciiSpace character = true ↔ character.toNat ∈ spaceCodes := by
  revert character
  decide +kernel

theorem trimAsciiWhitespace_eq_iff {text trimmed : Bytes} :
    trimAsciiWhitespace text = trimmed ↔
      Trimmed (fun character => character.toNat ∈ spaceCodes) text trimmed := by
  simp only [← isAsciiSpace_iff]
  exact trim_eq_iff

/-! ## Fields -/

theorem fieldStart_some {line : Bytes} {fieldIndex start found : Nat}
    (hstart : fieldStart line fieldIndex start = some found) :
    ((line.drop start).splitOn (asciiByte ',')).drop fieldIndex =
      (line.drop found).splitOn (asciiByte ',') := by
  induction fieldIndex generalizing start with
  | zero =>
      cases hstart
      rfl
  | succ fieldIndex ih =>
      rw [fieldStart] at hstart
      split at hstart
      · cases hstart
      · rename_i delimiter hfind
        rw [(splitOn_drop_of_findFrom_some hfind).2.2, List.drop_succ_cons]
        exact ih hstart

theorem fieldStart_none {line : Bytes} {fieldIndex start : Nat}
    (hstart : fieldStart line fieldIndex start = none) :
    ((line.drop start).splitOn (asciiByte ',')).drop fieldIndex = [] := by
  induction fieldIndex generalizing start with
  | zero => cases hstart
  | succ fieldIndex ih =>
      rw [fieldStart] at hstart
      split at hstart
      · rename_i hfind
        rw [splitOn_drop_of_findFrom_none hfind, List.drop_succ_cons, List.drop_nil]
      · rename_i delimiter hfind
        rw [(splitOn_drop_of_findFrom_some hfind).2.2, List.drop_succ_cons]
        exact ih hstart

/-- The text between two commas.  A field that is missing is empty. -/
def fieldOf (line : Bytes) (fieldIndex : Nat) : Bytes :=
  (line.splitOn (asciiByte ',')).getD fieldIndex []

theorem csvField_eq (line : Bytes) (fieldIndex : Nat) :
    csvField line fieldIndex = trimAsciiWhitespace (fieldOf line fieldIndex) := by
  have hfield : fieldOf line fieldIndex =
      (((line.drop 0).splitOn (asciiByte ',')).drop fieldIndex).headD [] := by
    rw [fieldOf, List.drop_zero, List.headD_eq_head?_getD, List.head?_drop,
      List.getD_eq_getElem?_getD]
  rw [hfield, csvField]
  cases hstart : fieldStart line fieldIndex 0 with
  | none =>
      rw [fieldStart_none hstart]
      rfl
  | some start =>
      rw [fieldStart_some hstart]
      cases hfind : findFrom (asciiByte ',') line start with
      | none =>
          rw [splitOn_drop_of_findFrom_none hfind]
          simp only [hfind]
          rfl
      | some fieldEnd =>
          rw [(splitOn_drop_of_findFrom_some hfind).2.2]
          simp only [hfind]
          rfl

theorem trimAsciiWhitespace_trimAsciiWhitespace (text : Bytes) :
    trimAsciiWhitespace (trimAsciiWhitespace text) = trimAsciiWhitespace text :=
  trim_trim isAsciiSpace text

/-! ## Decimal values -/

/-- The exact value of a string of digits. -/
def decimalValue (text : Bytes) : Nat :=
  Nat.ofDigits 10 (text.reverse.map (fun character => character.toNat - (asciiByte '0').toNat))

theorem decimalValue_concat (text : Bytes) (character : UInt8) :
    decimalValue (text ++ [character]) =
      character.toNat - (asciiByte '0').toNat + 10 * decimalValue text := by
  rw [decimalValue, List.reverse_append, List.reverse_singleton, List.singleton_append,
    List.map_cons, Nat.ofDigits_cons]
  rfl

theorem toNat_ofNat_id {value : Nat} (hvalue : value ≤ 65535) :
    (UInt32.ofNat value).toNat = value :=
  UInt32.toNat_ofNat_of_lt' (Nat.lt_of_le_of_lt hvalue (by decide))

/-- A round keeps the exact value as long as it is a possible id. -/
theorem addDigit_eq {value : UInt32} (hvalue : value.toNat ≤ 65535) {character : UInt8}
    (hdigit : isDigit character = true) :
    addDigit value character =
      if character.toNat - (asciiByte '0').toNat + 10 * value.toNat ≤ 65535 then
        some (UInt32.ofNat (character.toNat - (asciiByte '0').toNat + 10 * value.toNat))
      else none := by
  rcases isDigit_iff.mp hdigit with ⟨hlow, hhigh⟩
  have hzero : (asciiByte '0').toNat = 48 := by decide
  have hdigitValue : (character.toUInt32 - (asciiByte '0').toUInt32).toNat = character.toNat - 48 := by
    rw [UInt32.toNat_sub_of_le, UInt8.toNat_toUInt32, UInt8.toNat_toUInt32, hzero]
    rw [UInt32.le_iff_toNat_le, UInt8.toNat_toUInt32, UInt8.toNat_toUInt32, hzero]
    exact hlow
  rw [addDigit, hzero]
  generalize character.toUInt32 - (asciiByte '0').toUInt32 = digit at hdigitValue
  have hroom : ((maxVenueId - digit) / 10).toNat = (65535 - digit.toNat) / 10 := by
    have hten : (10 : UInt32).toNat = 10 := rfl
    have hmax : maxVenueId.toNat = 65535 := rfl
    rw [UInt32.toNat_div, UInt32.toNat_sub_of_le, hten, hmax]
    rw [UInt32.le_iff_toNat_le, hmax]
    omega
  have hguard : value > (maxVenueId - digit) / 10 ↔
      ¬(character.toNat - 48 + 10 * value.toNat ≤ 65535) := by
    rw [gt_iff_lt, UInt32.lt_iff_toNat_lt, hroom]
    omega
  by_cases hfits : character.toNat - 48 + 10 * value.toNat ≤ 65535
  · have hnext : value * 10 + digit = UInt32.ofNat (character.toNat - 48 + 10 * value.toNat) := by
      apply UInt32.toNat_inj.mp
      rw [toNat_ofNat_id hfits, UInt32.toNat_add, UInt32.toNat_mul]
      change (value.toNat * 10 % 2 ^ 32 + digit.toNat) % 2 ^ 32 = _
      omega
    rw [if_neg (fun hlarge => hguard.mp hlarge hfits), if_pos hfits, hnext]
  · rw [if_pos (hguard.mpr hfits), if_neg hfits]

/-- The loop finds the exact value of digits, unless it is too large. -/
theorem foldlM_addDigit {text : Bytes} (hdigits : ∀ character ∈ text, isDigit character = true) :
    text.foldlM addDigit 0 =
      if decimalValue text ≤ 65535 then some (UInt32.ofNat (decimalValue text)) else none := by
  induction text using List.reverseRecOn with
  | nil => rfl
  | append_singleton front last ih =>
      have hfront := ih (fun character hmem => hdigits character (List.mem_append_left _ hmem))
      have hlast := hdigits last (List.mem_append_right _ (List.mem_singleton_self last))
      rw [List.foldlM_append, hfront, decimalValue_concat]
      by_cases hfits : decimalValue front ≤ 65535
      · have hvalue : (UInt32.ofNat (decimalValue front)).toNat = decimalValue front :=
          toNat_ofNat_id hfits
        rw [if_pos hfits, Option.bind_eq_bind, Option.bind_some, List.foldlM_cons,
          addDigit_eq (by omega) hlast, hvalue]
        split <;> rfl
      · rw [if_neg hfits, if_neg (by omega)]
        rfl

theorem parseVenueId_eq_some_iff {text : Bytes} (htrimmed : trimAsciiWhitespace text = text)
    {venueId : Venue.VenueId} :
    parseVenueId text = some venueId ↔
      text ≠ [] ∧ (∀ character ∈ text, isDigit character = true) ∧
        1 ≤ decimalValue text ∧ decimalValue text ≤ 65535 ∧
        venueId.toNat = decimalValue text := by
  have hvalid : isValidVenueIdText text = true ↔
      text ≠ [] ∧ ∀ character ∈ text, isDigit character = true := by
    rw [isValidVenueIdText, htrimmed]
    cases text with
    | nil => simp
    | cons character rest => simp
  rw [parseVenueId, htrimmed, ← and_assoc, ← hvalid]
  by_cases hdigits : isValidVenueIdText text = true
  · simp only [hdigits, Bool.not_true, Bool.false_eq_true, if_false, true_and,
      foldlM_addDigit (hvalid.mp hdigits).2]
    by_cases hfits : decimalValue text ≤ 65535
    · have hvalue : (UInt32.ofNat (decimalValue text)).toNat = decimalValue text :=
        toNat_ofNat_id hfits
      have hid : (UInt32.ofNat (decimalValue text)).toUInt16.toNat = decimalValue text := by
        rw [UInt32.toNat_toUInt16, hvalue]
        omega
      have hzero : UInt32.ofNat (decimalValue text) = 0 ↔ decimalValue text = 0 := by
        rw [← UInt32.toNat_inj, hvalue]
        rfl
      simp only [hfits, if_true, hzero, true_and]
      by_cases hnone : decimalValue text = 0
      · simp [hnone]
      · rw [if_neg hnone, Option.some.injEq, ← UInt16.toNat_inj, hid]
        constructor
        · intro hsame
          exact ⟨by omega, hsame.symm⟩
        · rintro ⟨-, hsame⟩
          exact hsame.symm
    · simp [hfits]
  · simp [hdigits]

/-! ## What a line yields -/

/-- The venue of two fields, without the limit on the number of venues. -/
def rowVenue (skipHeaderRows : Bool) (idField micField : Bytes) : Option Venue.Venue :=
  if skipHeaderRows && isVenueHeaderRow idField then none
  else do
    let venueId ← parseVenueId idField
    let mic ← (Venue.makeMic micField).toOption
    return ⟨venueId, mic⟩

/-- The venue of a line. -/
def lineVenue (skipHeaderRows : Bool) (text : Bytes) : Option Venue.Venue :=
  let line := trimAsciiWhitespace text
  if shouldSkipLine line then none
  else rowVenue skipHeaderRows (csvField line 0) (csvField line 1)

theorem trimAsciiWhitespace_csvField (line : Bytes) (fieldIndex : Nat) :
    trimAsciiWhitespace (csvField line fieldIndex) = csvField line fieldIndex := by
  rw [csvField_eq, trimAsciiWhitespace_trimAsciiWhitespace]

/-- A fixture that is not full takes the venue of the fields, if there is one. -/
theorem appendVenueIfValid_venues {options : VenueFixtureParseOptions} {fixture : VenueFixture}
    (hroom : ¬(options.maxVenues ≠ 0 ∧ options.maxVenues ≤ fixture.venues.length))
    {idField micField : Bytes} (hid : trimAsciiWhitespace idField = idField)
    (hmic : trimAsciiWhitespace micField = micField) :
    (appendVenueIfValid fixture idField micField options).venues =
      fixture.venues ++ (rowVenue options.skipHeaderRows idField micField).toList := by
  rw [appendVenueIfValid, if_neg (by simpa using hroom), hid, hmic]
  dsimp only
  by_cases hheader : (options.skipHeaderRows && isVenueHeaderRow idField) = true
  · rw [rowVenue, if_pos hheader, if_pos hheader, Option.toList_none, List.append_nil]
  · rw [rowVenue, if_neg hheader, if_neg hheader]
    cases parseVenueId idField with
    | none => exact (List.append_nil _).symm
    | some venueId =>
        cases Venue.makeMic micField with
        | error code => exact (List.append_nil _).symm
        | ok mic => rfl

theorem processLine_venues (options : VenueFixtureParseOptions) (fixture : VenueFixture)
    (text : Bytes) :
    (processLine options fixture text).venues =
      collectStep options.maxVenues (lineVenue options.skipHeaderRows) fixture.venues text := by
  rw [collectStep]
  by_cases hfull : options.maxVenues ≠ 0 ∧ options.maxVenues ≤ fixture.venues.length
  · rw [if_pos hfull, processLine]
    split
    · rfl
    · rw [appendVenueIfValid, if_pos (by simpa using hfull)]
  · rw [if_neg hfull, processLine, lineVenue]
    by_cases hskip : shouldSkipLine (trimAsciiWhitespace text) = true
    · simp [hskip]
    · simp only [hskip, Bool.false_eq_true, if_false]
      exact appendVenueIfValid_venues hfull (trimAsciiWhitespace_csvField _ 0)
        (trimAsciiWhitespace_csvField _ 1)

/-! ## Whole texts -/

/-- The venues of a text, line by line. -/
def venuesOf (skipHeaderRows : Bool) (text : Bytes) : List Venue.Venue :=
  (text.splitOn newline).filterMap (lineVenue skipHeaderRows)

/-- Enough fuel gives the fixture with these venues. -/
def Parses (text : Bytes) (options : VenueFixtureParseOptions) (venues : List Venue.Venue) :
    Prop :=
  ∀ fuel, text.length < fuel → parseVenueFixtureText fuel text options = some ⟨venues⟩

theorem parses_atMost (text : Bytes) (options : VenueFixtureParseOptions) :
    Parses text options (atMost options.maxVenues (venuesOf options.skipHeaderRows text)) := by
  intro fuel hfuel
  have hvenues := foldl_collects VenueFixture.venues (processLine_venues options)
    {} rfl (text.splitOn newline)
  rw [parseVenueFixtureText, scanLines_eq _ _ _ (Nat.zero_le _) hfuel, List.drop_zero]
  exact congrArg (fun venues => some (VenueFixture.mk venues)) hvenues

theorem venuesOf_append (skipHeaderRows : Bool) (first second : Bytes) :
    venuesOf skipHeaderRows (first ++ newline :: second) =
      venuesOf skipHeaderRows first ++ venuesOf skipHeaderRows second := by
  rw [venuesOf, splitOn_append_cons, List.filterMap_append]
  rfl

theorem venuesOf_line (skipHeaderRows : Bool) {line : Bytes} (hline : newline ∉ line) :
    venuesOf skipHeaderRows line = (lineVenue skipHeaderRows line).toList := by
  rw [venuesOf, splitOn_eq_singleton hline]
  cases hvenue : lineVenue skipHeaderRows line <;> simp [hvenue]

/-! ## The grammar of a line -/

/-- A field of a line: the line and then the field are trimmed. -/
def lineField (line : Bytes) (fieldIndex : Nat) : Bytes :=
  trimAsciiWhitespace (fieldOf (trimAsciiWhitespace line) fieldIndex)

def headerNames : List Bytes :=
  [asciiText "venue_id", asciiText "VenueId", asciiText "id", asciiText "ID"]

/-- A line that yields a venue.  The bytes 48 to 57 are the digits, and 65 to 90 the capital
letters. -/
structure VenueLine (skipHeaderRows : Bool) (line : Bytes) (venue : Venue.Venue) : Prop where
  not_blank : trimAsciiWhitespace line ≠ []
  not_comment : (trimAsciiWhitespace line).head? ≠ some (asciiByte '#')
  not_header : skipHeaderRows = true → lineField line 0 ∉ headerNames
  id_nonempty : lineField line 0 ≠ []
  id_digits : ∀ character ∈ lineField line 0, 48 ≤ character.toNat ∧ character.toNat ≤ 57
  id_pos : 1 ≤ decimalValue (lineField line 0)
  id_le : decimalValue (lineField line 0) ≤ 65535
  id_eq : venue.id.toNat = decimalValue (lineField line 0)
  mic_length : (lineField line 1).length = 4
  mic_chars : ∀ character ∈ lineField line 1,
    (65 ≤ character.toNat ∧ character.toNat ≤ 90) ∨ (48 ≤ character.toNat ∧ character.toNat ≤ 57)
  mic_eq : venue.mic.toList = lineField line 1

theorem makeMic_eq_ok_iff {text : Bytes} {mic : Venue.Mic} :
    Venue.makeMic text = .ok mic ↔
      text.length = 4 ∧ (∀ character ∈ text, Venue.isValidMicChar character = true) ∧
        mic.toList = text := by
  rw [Venue.makeMic]
  by_cases hlength : text.length = 4
  · by_cases hchars : text.all Venue.isValidMicChar = true
    · have hall := List.all_eq_true.mp hchars
      rw [dif_pos hlength, if_pos hchars]
      constructor
      · intro hok
        cases hok
        exact ⟨hlength, hall, rfl⟩
      · rintro ⟨-, -, rfl⟩
        rfl
    · rw [dif_pos hlength, if_neg hchars, List.all_eq_true] at *
      simp [hchars]
  · simp [hlength]

theorem isVenueHeaderRow_iff {field : Bytes} (htrimmed : trimAsciiWhitespace field = field) :
    isVenueHeaderRow field = true ↔ field ∈ headerNames := by
  simp [isVenueHeaderRow, htrimmed, headerNames, or_assoc]

theorem rowVenue_eq_some_iff {skipHeaderRows : Bool} {idField micField : Bytes}
    (hid : trimAsciiWhitespace idField = idField) {venue : Venue.Venue} :
    rowVenue skipHeaderRows idField micField = some venue ↔
      (skipHeaderRows = true → idField ∉ headerNames) ∧
        parseVenueId idField = some venue.id ∧ Venue.makeMic micField = .ok venue.mic := by
  have hheader : (skipHeaderRows && isVenueHeaderRow idField) = true ↔
      skipHeaderRows = true ∧ idField ∈ headerNames := by
    rw [Bool.and_eq_true, isVenueHeaderRow_iff hid]
  rw [rowVenue]
  by_cases hskip : (skipHeaderRows && isVenueHeaderRow idField) = true
  · rw [if_pos hskip]
    exact iff_of_false (fun h => by cases h) (fun h => h.1 (hheader.mp hskip).1 (hheader.mp hskip).2)
  · rw [if_neg hskip]
    have hnot : skipHeaderRows = true → idField ∉ headerNames :=
      fun hrows hmem => hskip (hheader.mpr ⟨hrows, hmem⟩)
    cases parseVenueId idField with
    | none => simp
    | some venueId =>
        cases Venue.makeMic micField with
        | error code => simp [Except.toOption]
        | ok mic =>
            cases venue
            simp only [Except.toOption, Option.bind_eq_bind, Option.bind_some, Option.pure_def,
              Option.some.injEq, Except.ok.injEq, Venue.Venue.mk.injEq]
            exact (and_iff_right hnot).symm

theorem lineVenue_eq_some_iff {skipHeaderRows : Bool} {line : Bytes} {venue : Venue.Venue} :
    lineVenue skipHeaderRows line = some venue ↔ VenueLine skipHeaderRows line venue := by
  have hskip : shouldSkipLine (trimAsciiWhitespace line) = false ↔
      trimAsciiWhitespace line ≠ [] ∧
        (trimAsciiWhitespace line).head? ≠ some (asciiByte '#') := by
    simp [shouldSkipLine]
  have htrimmed : ∀ fieldIndex, trimAsciiWhitespace (lineField line fieldIndex) =
      lineField line fieldIndex := by
    intro fieldIndex
    exact trimAsciiWhitespace_trimAsciiWhitespace _
  have hrow : lineVenue skipHeaderRows line = some venue ↔
      shouldSkipLine (trimAsciiWhitespace line) = false ∧
        rowVenue skipHeaderRows (lineField line 0) (lineField line 1) = some venue := by
    rw [lineVenue, csvField_eq, csvField_eq]
    by_cases hblank : shouldSkipLine (trimAsciiWhitespace line) = true
    · simp [hblank]
    · simp only [hblank, Bool.false_eq_true, if_false, true_and]
      rfl
  rw [hrow, hskip, rowVenue_eq_some_iff (htrimmed 0), parseVenueId_eq_some_iff (htrimmed 0),
    makeMic_eq_ok_iff]
  simp only [isDigit_iff, isValidMicChar_iff]
  constructor
  · rintro ⟨⟨hblank, hcomment⟩, hheader, ⟨hne, hdigits, hpos, hle, hid⟩, hlength, hchars, hmic⟩
    exact ⟨hblank, hcomment, hheader, hne, hdigits, hpos, hle, hid, hlength, hchars, hmic⟩
  · intro hline
    exact ⟨⟨hline.not_blank, hline.not_comment⟩, hline.not_header,
      ⟨hline.id_nonempty, hline.id_digits, hline.id_pos, hline.id_le, hline.id_eq⟩,
      hline.mic_length, hline.mic_chars, hline.mic_eq⟩

/-- The parser comes to its end on every text and yields the venues of its lines in order, up
to the limit.  Lines do not affect each other, and a line yields a venue exactly when it is of
the form {lit}`VenueLine`. -/
theorem venue_fixture_grammar (skipHeaderRows : Bool) :
    (∀ text trimmed, trimAsciiWhitespace text = trimmed ↔
      Trimmed (fun character => character.toNat ∈ spaceCodes) text trimmed) ∧
    (∀ text, Parses text ⟨0, skipHeaderRows⟩ (venuesOf skipHeaderRows text)) ∧
    (∀ text maxVenues, 0 < maxVenues →
      Parses text ⟨maxVenues, skipHeaderRows⟩ ((venuesOf skipHeaderRows text).take maxVenues)) ∧
    (∀ first second, venuesOf skipHeaderRows (first ++ newline :: second) =
      venuesOf skipHeaderRows first ++ venuesOf skipHeaderRows second) ∧
    (∀ line, newline ∉ line →
      (venuesOf skipHeaderRows line = [] ∨ ∃ venue, venuesOf skipHeaderRows line = [venue]) ∧
      ∀ venue, venuesOf skipHeaderRows line = [venue] ↔
        VenueLine skipHeaderRows line venue) := by
  refine ⟨fun _ _ => trimAsciiWhitespace_eq_iff, ?_, ?_, venuesOf_append skipHeaderRows, ?_⟩
  · intro text
    exact parses_atMost text ⟨0, skipHeaderRows⟩
  · intro text maxVenues hpos
    have hparses := parses_atMost text ⟨maxVenues, skipHeaderRows⟩
    rw [atMost, if_neg (Nat.pos_iff_ne_zero.mp hpos)] at hparses
    exact hparses
  · intro line hline
    rw [venuesOf_line skipHeaderRows hline]
    constructor
    · cases lineVenue skipHeaderRows line with
      | none => exact Or.inl rfl
      | some venue => exact Or.inr ⟨venue, rfl⟩
    · intro venue
      rw [← lineVenue_eq_some_iff]
      cases lineVenue skipHeaderRows line <;> simp

example : parseVenueFixtureText 30 (asciiText "id,mic\n# x\n 007 , XNAS\n8,xnys") {} =
    some ⟨[⟨7, ⟨asciiText "XNAS", rfl⟩⟩]⟩ := by
  decide +kernel

end Fgep.Reference
