import GatedExecution.Apps.QueuePerf
import GatedExecution.Lib.KeyedLines
import GatedExecution.Reference.VenueFixture

/-!
# The reader of recorded runs

{lit}`fgep_spsc_perf_report` reads a text that the queue program and {lit}`perf stat` wrote
together: headers, the counts that the program prints, the counters of the machine with
their digits grouped, and lines that say nothing.  Whatever their order, the report holds
the last value given for each of its fields.

Main results:

- Theorem {lit}`parseU64Token_token`: a grouped number is read back.
- Theorem {lit}`processLine_text`: what one line of each kind changes.
- Theorem {lit}`perf_report_reads`: what is read from a whole recording.
-/

namespace Fgep.Apps

open Wire Reference Separated KeyedLines

/-! ## Numbers in a text -/

/-- {lit}`std::isspace` in the C locale. -/
def isSpace (value : UInt8) : Bool :=
  isAsciiSpace value || value = 11 || value = 12

/-- The loop of {lit}`parse_u64_token`: the first digits, without the commas among them. -/
def collectDigits : Bytes → Bytes → Bytes
  | digits, [] => digits
  | digits, value :: rest =>
      if isDigit value then collectDigits (digits ++ [value]) rest
      else if value = asciiByte ',' then collectDigits digits rest
      else if digits ≠ [] then digits
      else collectDigits digits rest

/-- {lit}`std::from_chars` on digits: out of range above the largest number. -/
def fromChars (digits : Bytes) : Option UInt64 :=
  if decimalValue digits < 2 ^ 64 then some (UInt64.ofNat (decimalValue digits)) else none

def parseU64Token (text : Bytes) : Option UInt64 :=
  let digits := collectDigits [] text
  if digits = [] then none else fromChars digits

def isNumeric (value : UInt8) : Bool :=
  isDigit value || value = asciiByte '.'

/-- The loop of {lit}`parse_first_double`. -/
def collectNumeric : Bytes → Bytes → Bytes
  | token, [] => token
  | token, value :: rest =>
      if isNumeric value then collectNumeric (token ++ [value]) rest
      else if token ≠ [] then token
      else collectNumeric token rest

/-- {lit}`std::stod` is a parameter; it may throw. -/
def parseFirstDouble {Seconds : Type} (stod : Bytes → Option Seconds) (text : Bytes) :
    Option Seconds :=
  let token := collectNumeric [] text
  if token = [] then none else stod token

def contains (text needle : Bytes) : Bool :=
  decide (needle <:+: text)

/-! ## Fields -/

/-- The fields of {lit}`PerfEventCounts`. -/
inductive PerfEvent where
  | cycles
  | instructions
  | branches
  | branchMisses
  | cacheReferences
  | cacheMisses
  | l1DcacheLoads
  | l1DcacheLoadMisses
  | dtlbLoads
  | dtlbLoadMisses
deriving DecidableEq

/-- The fields of {lit}`QueueRunStats`. -/
inductive QueueKey where
  | payloadSize
  | produced
  | consumed
  | checksum
  | submitQueued
  | submitRejected
  | ringFull
deriving DecidableEq

inductive HeaderKey where
  | dateUtc
  | host
  | kernel
  | command
deriving DecidableEq

abbrev PerfEventCounts := PerfEvent → UInt64

abbrev QueueRunStats := QueueKey → UInt64

structure PerfStatReport (Seconds : Type) where
  label : Bytes
  headers : HeaderKey → Bytes := fun _ => []
  elapsedSeconds : Seconds
  events : PerfEventCounts := fun _ => 0
  queue : QueueRunStats := fun _ => 0

namespace PerfEvent

def needle : PerfEvent → Bytes
  | branchMisses => asciiText "branch-misses"
  | branches => asciiText "branches"
  | cacheReferences => asciiText "cache-references"
  | cacheMisses => asciiText "cache-misses"
  | l1DcacheLoadMisses => asciiText "L1-dcache-load-misses"
  | l1DcacheLoads => asciiText "L1-dcache-loads"
  | dtlbLoadMisses => asciiText "dTLB-load-misses"
  | dtlbLoads => asciiText "dTLB-loads"
  | instructions => asciiText "instructions"
  | cycles => asciiText "cycles"

/-- The order in which {lit}`parse_event_line` looks for them. -/
def chain : List PerfEvent :=
  [branchMisses, branches, cacheReferences, cacheMisses, l1DcacheLoadMisses, l1DcacheLoads,
    dtlbLoadMisses, dtlbLoads, instructions, cycles]

/-- The event that a line is about. -/
def named (line : Bytes) : Option PerfEvent :=
  chain.find? (fun event => contains line event.needle)

end PerfEvent

namespace QueueKey

def key : QueueKey → Bytes
  | payloadSize => asciiText "payload_size"
  | produced => asciiText "produced"
  | consumed => asciiText "consumed"
  | checksum => asciiText "checksum"
  | submitQueued => asciiText "submit_queued"
  | submitRejected => asciiText "submit_rejected"
  | ringFull => asciiText "ring_full"

/-- The order in which {lit}`parse_queue_line` tries them. -/
def chain : List QueueKey :=
  [payloadSize, produced, consumed, checksum, submitQueued, submitRejected, ringFull]

def start (key : QueueKey) : Bytes :=
  key.key ++ asciiText "="

end QueueKey

namespace HeaderKey

def key : HeaderKey → Bytes
  | dateUtc => asciiText "date_utc"
  | host => asciiText "host"
  | kernel => asciiText "kernel"
  | command => asciiText "command"

def chain : List HeaderKey :=
  [dateUtc, host, kernel, command]

def start (key : HeaderKey) : Bytes :=
  asciiText "# " ++ key.key ++ asciiText ": "

end HeaderKey

/-! ## Lines -/

def parseEventLine (line : Bytes) (events : PerfEventCounts) : PerfEventCounts :=
  match parseU64Token line, PerfEvent.named line with
  | some value, some event => Function.update events event value
  | _, _ => events

def parseKeyValueU64 (line : Bytes) (key : QueueKey) : Option UInt64 :=
  if key.start.isPrefixOf line then parseU64Token (line.drop key.start.length) else none

/-- {lit}`payload_size` is read as a {lit}`std::size_t`, which has 64 bits as well. -/
def parseQueueLine (line : Bytes) (stats : QueueRunStats) : QueueRunStats :=
  match QueueKey.chain.findSome? (fun key =>
    (parseKeyValueU64 line key).map (fun value => (key, value))) with
  | some (key, value) => Function.update stats key value
  | none => stats

def parseHeaderValue (line : Bytes) (key : HeaderKey) : Bytes :=
  if key.start.isPrefixOf line then trim isSpace (line.drop key.start.length) else []

def elapsedNeedle : Bytes :=
  asciiText "seconds time elapsed"

section Report

variable {Seconds : Type} (stod : Bytes → Option Seconds)

/-- One round of the loop of {lit}`parse_perf_file`. -/
def processLine (report : PerfStatReport Seconds) (line : Bytes) : PerfStatReport Seconds :=
  if (asciiText "# ").isPrefixOf line then
    match HeaderKey.chain.find? (fun key => parseHeaderValue line key ≠ []) with
    | some key =>
        { report with headers := Function.update report.headers key (parseHeaderValue line key) }
    | none => report
  else if contains line elapsedNeedle then
    match parseFirstDouble stod line with
    | some seconds => { report with elapsedSeconds := seconds }
    | none => report
  else
    { report with
      events := parseEventLine line report.events
      queue := parseQueueLine line report.queue }

/-- The report on the lines of a file. -/
def parsePerfLines (label : Bytes) (zero : Seconds) (lines : List Bytes) :
    PerfStatReport Seconds :=
  lines.foldl (processLine stod) { label := label, elapsedSeconds := zero }

end Report

/-- What {lit}`std::getline` gives one after another: nothing behind a last newline. -/
def getLines (text : Bytes) : List Bytes :=
  let pieces := text.splitOn newline
  if pieces.getLast? = some [] then pieces.dropLast else pieces

/-! ## Reading numbers back -/

/-- A number as {lit}`operator<<` prints it. -/
def decimalText (number : Nat) : Bytes :=
  if number = 0 then [asciiByte '0']
  else (Nat.digits 10 number).reverse.map (fun digit => UInt8.ofNat (48 + digit))

section Numbers

theorem toNat_digitByte {digit : Nat} (hdigit : digit < 10) :
    (UInt8.ofNat (48 + digit)).toNat = 48 + digit :=
  UInt8.toNat_ofNat_of_lt' (show 48 + digit < 2 ^ 8 by omega)

theorem isDigit_of_mem_decimalText {number : Nat} {value : UInt8}
    (hmem : value ∈ decimalText number) : isDigit value = true := by
  rw [decimalText] at hmem
  split at hmem
  · rw [List.mem_singleton.mp hmem]
    decide
  · obtain ⟨digit, hdigit, rfl⟩ := List.mem_map.mp hmem
    have hlt := Nat.digits_lt_base (by decide : 1 < 10) (List.mem_reverse.mp hdigit)
    rw [isDigit_iff, toNat_digitByte hlt]
    omega

theorem decimalText_ne_nil (number : Nat) : decimalText number ≠ [] := by
  rw [decimalText]
  split
  · exact List.cons_ne_nil _ _
  · rename_i hnumber
    simp [Nat.digits_ne_nil_iff_ne_zero.mpr hnumber]

theorem decimalValue_decimalText (number : Nat) : decimalValue (decimalText number) = number := by
  rw [decimalText]
  split
  · rename_i hzero
    rw [hzero]
    decide
  · have hdigits : ((Nat.digits 10 number).map (fun digit => UInt8.ofNat (48 + digit))).map
        (fun character => character.toNat - (asciiByte '0').toNat) = Nat.digits 10 number := by
      rw [List.map_map]
      refine (List.map_congr_left ?_).trans (List.map_id _)
      intro digit hdigit
      have hlt := Nat.digits_lt_base (by decide : 1 < 10) hdigit
      have hzero : (asciiByte '0').toNat = 48 := by decide
      rw [Function.comp_apply, toNat_digitByte hlt, hzero, Nat.add_sub_cancel_left]
      rfl
    rw [decimalValue, ← List.map_reverse, List.reverse_reverse, hdigits, Nat.ofDigits_digits]

/-- Digits and commas, which spell the number once the commas are left out. -/
structure Spells (token : Bytes) (number : Nat) : Prop where
  digits : token.filter (fun value => value ≠ asciiByte ',') = decimalText number
  only : ∀ value ∈ token, isDigit value = true ∨ value = asciiByte ','

theorem spells_decimalText (number : Nat) : Spells (decimalText number) number where
  digits := by
    rw [List.filter_eq_self]
    intro value hmem
    have hdigit := isDigit_of_mem_decimalText hmem
    rw [decide_eq_true_eq]
    rintro rfl
    revert hdigit
    decide
  only := fun _ hmem => Or.inl (isDigit_of_mem_decimalText hmem)

theorem collectDigits_front {front : Bytes} (hfront : ∀ value ∈ front, isDigit value = false)
    (rest : Bytes) : collectDigits [] (front ++ rest) = collectDigits [] rest := by
  induction front with
  | nil => rfl
  | cons value others ih =>
      rw [List.forall_mem_cons] at hfront
      rw [List.cons_append, collectDigits, hfront.1]
      simp [ih hfront.2]

theorem collectDigits_token {token : Bytes}
    (honly : ∀ value ∈ token, isDigit value = true ∨ value = asciiByte ',') (digits rest : Bytes) :
    collectDigits digits (token ++ rest) =
      collectDigits (digits ++ token.filter (fun value => value ≠ asciiByte ',')) rest := by
  induction token generalizing digits with
  | nil => rw [List.filter_nil, List.append_nil, List.nil_append]
  | cons value others ih =>
      rw [List.forall_mem_cons] at honly
      rw [List.cons_append, collectDigits]
      rcases honly.1 with hdigit | rfl
      · have hcomma : value ≠ asciiByte ',' := by
          rintro rfl
          revert hdigit
          decide
        rw [if_pos hdigit, ih honly.2, List.append_assoc]
        simp [hcomma]
      · rw [if_neg (by decide), if_pos rfl, ih honly.2]
        simp

/-- The text goes on with something that is neither a digit nor a comma, if at all. -/
def Stops (tail : Bytes) : Prop :=
  ∀ value ∈ tail.head?, isDigit value = false ∧ value ≠ asciiByte ','

theorem collectDigits_stop {digits tail : Bytes} (hdigits : digits ≠ []) (hstops : Stops tail) :
    collectDigits digits tail = digits := by
  cases tail with
  | nil => rfl
  | cons value rest =>
      obtain ⟨hdigit, hcomma⟩ := hstops value rfl
      rw [collectDigits, hdigit, if_neg Bool.false_ne_true, if_neg hcomma, if_pos hdigits]

/-- The first number of a text is read back, with or without commas. -/
theorem parseU64Token_token {front token tail : Bytes} {value : UInt64}
    (hfront : ∀ character ∈ front, isDigit character = false) (hspells : Spells token value.toNat)
    (hstops : Stops tail) : parseU64Token (front ++ (token ++ tail)) = some value := by
  have hdigits : collectDigits [] (front ++ (token ++ tail)) = decimalText value.toNat := by
    rw [collectDigits_front hfront, collectDigits_token hspells.only, hspells.digits,
      List.nil_append, collectDigits_stop (decimalText_ne_nil _) hstops]
  rw [parseU64Token, hdigits, if_neg (decimalText_ne_nil _), fromChars, decimalValue_decimalText,
    if_pos value.toNat_lt, UInt64.ofNat_toNat]

theorem collectNumeric_spaces (lead : Nat) (rest : Bytes) :
    collectNumeric [] (List.replicate lead (asciiByte ' ') ++ rest) = collectNumeric [] rest := by
  induction lead with
  | zero => rfl
  | succ lead ih =>
      rw [List.replicate_succ, List.cons_append, collectNumeric, if_neg (by decide),
        if_neg (by decide), ih]

theorem collectNumeric_token {token : Bytes} (honly : ∀ value ∈ token, isNumeric value = true)
    (found rest : Bytes) :
    collectNumeric found (token ++ rest) = collectNumeric (found ++ token) rest := by
  induction token generalizing found with
  | nil => rw [List.append_nil, List.nil_append]
  | cons value others ih =>
      rw [List.forall_mem_cons] at honly
      rw [List.cons_append, collectNumeric, if_pos honly.1, ih honly.2, List.append_assoc,
        List.singleton_append]

end Numbers

/-! ## The lines of a recording -/

variable {Seconds : Type}

/-- The kinds of lines: a counter of the machine with its digits grouped, a count of the
queue program, a header, the time, and anything that says nothing. -/
inductive PerfLine (Seconds : Type) where
  | event (counter : PerfEvent) (value : UInt64) (lead : Nat) (token tail : Bytes)
  | queue (key : QueueKey) (value : UInt64)
  | header (key : HeaderKey) (value : Bytes)
  | elapsed (seconds : Seconds) (lead : Nat) (token : Bytes)
  | note (line : Bytes)

def spaces (lead : Nat) : Bytes :=
  List.replicate lead (asciiByte ' ')

namespace PerfLine

def text : PerfLine Seconds → Bytes
  | event _ _ lead token tail => spaces lead ++ (token ++ asciiByte ' ' :: tail)
  | queue key value => key.start ++ decimalText value.toNat
  | header key value => key.start ++ value
  | elapsed _ lead token => spaces lead ++ (token ++ asciiByte ' ' :: elapsedNeedle)
  | note line => line

/-- What makes a line of a kind that kind of line. -/
def WellFormed (stod : Bytes → Option Seconds) : PerfLine Seconds → Prop
  | event counter value _ token tail =>
      Spells token value.toNat ∧ PerfEvent.named tail = some counter ∧
        contains tail elapsedNeedle = false
  | queue _ _ => True
  | header _ value => value ≠ [] ∧ trim isSpace value = value
  | elapsed seconds _ token =>
      token ≠ [] ∧ (∀ value ∈ token, isNumeric value = true) ∧ stod token = some seconds
  | note line =>
      (asciiText "# ").isPrefixOf line = false ∧ contains line elapsedNeedle = false ∧
        PerfEvent.named line = none ∧ ∀ key : QueueKey, key.start.isPrefixOf line = false

/-- What a line says about the report. -/
def apply (report : PerfStatReport Seconds) : PerfLine Seconds → PerfStatReport Seconds
  | event counter value _ _ _ =>
      { report with events := Function.update report.events counter value }
  | queue key value => { report with queue := Function.update report.queue key value }
  | header key value => { report with headers := Function.update report.headers key value }
  | elapsed seconds _ _ => { report with elapsedSeconds := seconds }
  | note _ => report

end PerfLine

section Lines

/-- A prefix that begins differently. -/
theorem isPrefixOf_eq_false {start line : Bytes} {first : UInt8} (hstart : start.head? = some first)
    (hline : line.head? ≠ some first) : start.isPrefixOf line = false := by
  cases start with
  | nil => cases hstart
  | cons head rest =>
      cases hstart
      cases line with
      | nil => rfl
      | cons other others =>
          have hne : first ≠ other := fun heq => hline (congrArg some heq.symm)
          simp [List.isPrefixOf, hne]

/-- What stands in front of the name of a counter: spaces, digits and commas. -/
theorem front_cases {lead : Nat} {token : Bytes} {number : Nat} (hspells : Spells token number)
    {value : UInt8} (hmem : value ∈ spaces lead ++ token ++ [asciiByte ' ']) :
    value = asciiByte ' ' ∨ isDigit value = true ∨ value = asciiByte ',' := by
  rcases List.mem_append.mp hmem with hmem | hmem
  · rcases List.mem_append.mp hmem with hmem | hmem
    · exact Or.inl (List.eq_of_mem_replicate hmem)
    · exact Or.inr (hspells.only value hmem)
  · exact Or.inl (List.mem_singleton.mp hmem)

/-- The first letter of a word, which no front has. -/
def IsLetter (first : UInt8) : Prop :=
  first ≠ asciiByte ' ' ∧ isDigit first = false ∧ first ≠ asciiByte ','

instance (first : UInt8) : Decidable (IsLetter first) :=
  inferInstanceAs (Decidable (_ ∧ _ ∧ _))

section Front

variable {lead : Nat} {token tail : Bytes} {number : Nat} {word : Bytes} {first : UInt8}

theorem not_mem_front (hspells : Spells token number) (hletter : IsLetter first) :
    first ∉ spaces lead ++ token ++ [asciiByte ' '] := by
  intro hmem
  rcases front_cases hspells hmem with h | h | h
  · exact hletter.1 h
  · rw [hletter.2.1] at h
    cases h
  · exact hletter.2.2 h

theorem front_append (lead : Nat) (token tail : Bytes) :
    spaces lead ++ (token ++ asciiByte ' ' :: tail) =
      spaces lead ++ token ++ [asciiByte ' '] ++ tail := by
  simp

/-- A word is not found in the front. -/
theorem contains_front (hspells : Spells token number) (hfirst : word.head? = some first)
    (hletter : IsLetter first) :
    contains (spaces lead ++ (token ++ asciiByte ' ' :: tail)) word =
      contains tail word := by
  rw [contains, contains, front_append, decide_eq_decide]
  exact infix_append_iff hfirst (not_mem_front hspells hletter)

/-- Nor does a line with a front begin with a word. -/
theorem isPrefixOf_front (hfirst : word.head? = some first)
    (hfront : first ∉ spaces lead ++ token ++ [asciiByte ' ']) :
    word.isPrefixOf (spaces lead ++ (token ++ asciiByte ' ' :: tail)) = false := by
  apply isPrefixOf_eq_false hfirst
  intro hhead
  rw [front_append, List.head?_append_of_ne_nil _ (by simp)] at hhead
  exact hfront (List.mem_of_mem_head? hhead)

theorem named_front (hspells : Spells token number) :
    PerfEvent.named (spaces lead ++ (token ++ asciiByte ' ' :: tail)) =
      PerfEvent.named tail := by
  unfold PerfEvent.named
  congr 1
  funext event
  cases event <;> exact contains_front hspells rfl (by decide)

end Front

variable {stod : Bytes → Option Seconds} (report : PerfStatReport Seconds) {line : Bytes}

theorem processLine_plain (hheader : (asciiText "# ").isPrefixOf line = false)
    (helapsed : contains line elapsedNeedle = false) :
    processLine stod report line =
      { report with
        events := parseEventLine line report.events
        queue := parseQueueLine line report.queue } := by
  rw [processLine, hheader, helapsed, if_neg Bool.false_ne_true, if_neg Bool.false_ne_true]

theorem parseEventLine_of_not_named (hnamed : PerfEvent.named line = none)
    (events : PerfEventCounts) : parseEventLine line events = events := by
  rw [parseEventLine, hnamed]
  cases parseU64Token line <;> rfl

theorem parseQueueLine_of_no_key (hkeys : ∀ key : QueueKey, key.start.isPrefixOf line = false)
    (stats : QueueRunStats) : parseQueueLine line stats = stats := by
  have hnone : QueueKey.chain.findSome? (fun key =>
      (parseKeyValueU64 line key).map (fun value => (key, value))) = none := by
    rw [List.findSome?_eq_none_iff]
    intro key _
    rw [parseKeyValueU64, hkeys key, if_neg Bool.false_ne_true, Option.map_none]
  rw [parseQueueLine, hnone]

theorem processLine_event {counter : PerfEvent} {value : UInt64} {lead : Nat} {token tail : Bytes}
    (hwf : (PerfLine.event counter value lead token tail).WellFormed stod) :
    processLine stod report (spaces lead ++ (token ++ asciiByte ' ' :: tail)) =
      { report with events := Function.update report.events counter value } := by
  obtain ⟨hspells, hnamed, helapsed⟩ := hwf
  have htoken : parseU64Token (spaces lead ++ (token ++ asciiByte ' ' :: tail)) = some value := by
    refine parseU64Token_token ?_ hspells ?_
    · intro character hmem
      rw [List.eq_of_mem_replicate hmem]
      decide
    · intro character hmem
      cases hmem
      decide
  have hkeys : ∀ key : QueueKey,
      key.start.isPrefixOf (spaces lead ++ (token ++ asciiByte ' ' :: tail)) = false := by
    intro key
    cases key <;> exact isPrefixOf_front rfl (not_mem_front hspells (by decide))
  rw [processLine_plain report (isPrefixOf_front rfl (not_mem_front hspells (by decide)))
    ((contains_front hspells rfl (by decide)).trans helapsed), parseQueueLine_of_no_key hkeys,
    parseEventLine, htoken, named_front hspells, hnamed]

/-- What is read from the line of a count. -/
theorem parseKeyValueU64_start (key other : QueueKey) (value : UInt64) :
    parseKeyValueU64 (key.start ++ decimalText value.toNat) other =
      if other = key then some value else none := by
  by_cases hkey : other = key
  · subst hkey
    have htoken := @parseU64Token_token [] (decimalText value.toNat) [] value
      (fun _ hmem => by cases hmem) (spells_decimalText _) (fun _ hmem => by cases hmem)
    rw [List.nil_append, List.append_nil] at htoken
    rw [if_pos rfl, parseKeyValueU64, List.drop_left, htoken,
      if_pos (List.isPrefixOf_iff_prefix.mpr (List.prefix_append _ _))]
  · have hstart : other.start.isPrefixOf (key.start ++ decimalText value.toNat) = false := by
      cases key <;> cases other <;> first | exact absurd rfl hkey | rfl
    rw [if_neg hkey, parseKeyValueU64, hstart, if_neg Bool.false_ne_true]

/-- No line of a count names a counter: each name has a letter that is not in the line. -/
theorem not_mem_queue {key : QueueKey} {number : Nat} {letter : UInt8}
    (hkey : letter ∉ key.start) (hdigit : isDigit letter = false) :
    letter ∉ key.start ++ decimalText number := by
  intro hmem
  rcases List.mem_append.mp hmem with hmem | hmem
  · exact hkey hmem
  · rw [isDigit_of_mem_decimalText hmem] at hdigit
    cases hdigit

theorem named_queue (key : QueueKey) (number : Nat) :
    PerfEvent.named (key.start ++ decimalText number) = none := by
  rw [PerfEvent.named, List.find?_eq_none]
  intro event _
  have hletter : ∃ letter ∈ event.needle, letter ∉ key.start ∧ isDigit letter = false := by
    cases key <;> cases event <;> decide
  obtain ⟨letter, hneedle, hkey, hdigit⟩ := hletter
  rw [contains, decide_eq_true_eq]
  exact not_infix_of_not_mem hneedle (not_mem_queue hkey hdigit)

theorem processLine_queue (key : QueueKey) (value : UInt64) :
    processLine stod report (key.start ++ decimalText value.toNat) =
      { report with queue := Function.update report.queue key value } := by
  have hheader : (asciiText "# ").isPrefixOf (key.start ++ decimalText value.toNat) = false := by
    cases key <;> rfl
  have helapsed : contains (key.start ++ decimalText value.toNat) elapsedNeedle = false := by
    have hspace : asciiByte ' ' ∉ key.start := by cases key <;> decide
    rw [contains, decide_eq_false_iff_not]
    exact not_infix_of_not_mem (by decide : asciiByte ' ' ∈ elapsedNeedle)
      (not_mem_queue hspace (by decide))
  have hfound : QueueKey.chain.findSome? (fun other =>
      (parseKeyValueU64 (key.start ++ decimalText value.toNat) other).map
        (fun value => (other, value))) = some (key, value) := by
    simp only [parseKeyValueU64_start]
    cases key <;> rfl
  rw [processLine_plain report hheader helapsed, parseEventLine_of_not_named (named_queue key _),
    parseQueueLine, hfound]

theorem parseHeaderValue_start {value : Bytes} (htrimmed : trim isSpace value = value)
    (key other : HeaderKey) :
    parseHeaderValue (key.start ++ value) other = if other = key then value else [] := by
  by_cases hkey : other = key
  · subst hkey
    rw [if_pos rfl, parseHeaderValue, List.drop_left, htrimmed,
      if_pos (List.isPrefixOf_iff_prefix.mpr (List.prefix_append _ _))]
  · have hstart : other.start.isPrefixOf (key.start ++ value) = false := by
      cases key <;> cases other <;> first | exact absurd rfl hkey | rfl
    rw [if_neg hkey, parseHeaderValue, hstart, if_neg Bool.false_ne_true]

theorem processLine_header {key : HeaderKey} {value : Bytes} (hvalue : value ≠ [])
    (htrimmed : trim isSpace value = value) :
    processLine stod report (key.start ++ value) =
      { report with headers := Function.update report.headers key value } := by
  have hheader : (asciiText "# ").isPrefixOf (key.start ++ value) = true := by
    cases key <;> rfl
  have hfound : HeaderKey.chain.find? (fun other =>
      parseHeaderValue (key.start ++ value) other ≠ []) = some key := by
    simp only [parseHeaderValue_start htrimmed]
    cases key <;> simp [HeaderKey.chain, hvalue]
  rw [processLine, if_pos hheader, hfound]
  dsimp only
  rw [parseHeaderValue_start htrimmed, if_pos rfl]

theorem processLine_elapsed {seconds : Seconds} {lead : Nat} {token : Bytes}
    (hwf : (PerfLine.elapsed seconds lead token).WellFormed stod) :
    processLine stod report (spaces lead ++ (token ++ asciiByte ' ' :: elapsedNeedle)) =
      { report with elapsedSeconds := seconds } := by
  obtain ⟨htoken, hnumeric, hseconds⟩ := hwf
  have hfront : asciiByte '#' ∉ spaces lead ++ token ++ [asciiByte ' '] := by
    intro hmem
    simp only [List.mem_append, List.mem_singleton, spaces, List.mem_replicate] at hmem
    rcases hmem with (⟨-, h⟩ | h) | h
    · revert h
      decide
    · have := hnumeric _ h
      revert this
      decide
    · revert h
      decide
  have hcontains : contains (spaces lead ++ (token ++ asciiByte ' ' :: elapsedNeedle))
      elapsedNeedle = true := by
    rw [contains, decide_eq_true_eq, front_append]
    exact (List.suffix_append _ _).isInfix
  have hdouble : collectNumeric [] (spaces lead ++ (token ++ asciiByte ' ' :: elapsedNeedle)) =
      token := by
    rw [spaces, collectNumeric_spaces, collectNumeric_token hnumeric, List.nil_append,
      collectNumeric, if_neg (by decide), if_pos htoken]
  rw [processLine, isPrefixOf_front rfl hfront, if_neg Bool.false_ne_true, if_pos hcontains,
    parseFirstDouble, hdouble, if_neg htoken, hseconds]

/-- What one line changes. -/
theorem processLine_text {entry : PerfLine Seconds} (hwf : entry.WellFormed stod) :
    processLine stod report entry.text = entry.apply report := by
  cases entry with
  | event counter value lead token tail => exact processLine_event report hwf
  | queue key value => exact processLine_queue report key value
  | header key value => exact processLine_header report hwf.1 hwf.2
  | elapsed seconds lead token => exact processLine_elapsed report hwf
  | note line =>
      obtain ⟨hheader, helapsed, hnamed, hkeys⟩ := hwf
      rw [PerfLine.text, processLine_plain report hheader helapsed,
        parseEventLine_of_not_named hnamed, parseQueueLine_of_no_key hkeys]
      rfl

end Lines

/-! ## Whole recordings -/

namespace PerfLine

def eventValue (counter : PerfEvent) : PerfLine Seconds → Option UInt64
  | event other value _ _ _ => if other = counter then some value else none
  | _ => none

def queueValue (key : QueueKey) : PerfLine Seconds → Option UInt64
  | queue other value => if other = key then some value else none
  | _ => none

def headerValue (key : HeaderKey) : PerfLine Seconds → Option Bytes
  | header other value => if other = key then some value else none
  | _ => none

def seconds : PerfLine Seconds → Option Seconds
  | elapsed seconds _ _ => some seconds
  | _ => none

def isQueue : PerfLine Seconds → Bool
  | queue _ _ => true
  | _ => false

end PerfLine

/-- The counts that the queue program prints at its end. -/
def QueuePerfOutcome.counts (outcome : QueuePerfOutcome) : QueueRunStats
  | .payloadSize => UInt64.ofNat outcome.payloadSize
  | .produced => outcome.produced
  | .consumed => outcome.consumed
  | .checksum => outcome.checksum
  | .submitQueued => outcome.submitQueued
  | .submitRejected => outcome.submitRejected
  | .ringFull => outcome.ringFull

def QueuePerfOutcome.printed (outcome : QueuePerfOutcome) : List (PerfLine Seconds) :=
  .note (asciiText "spsc_queue_perf_complete") ::
    QueueKey.chain.map (fun key => .queue key (outcome.counts key))

theorem getLines_flatMap {lines : List Bytes} (hlines : ∀ line ∈ lines, newline ∉ line) :
    getLines (lines.flatMap (fun line => line ++ [newline])) = lines := by
  rw [getLines, splitOn_flatMap hlines, List.getLast?_concat, if_pos rfl, List.dropLast_concat]

section Parts

variable (report : PerfStatReport Seconds)

theorem events_apply (entry : PerfLine Seconds) (counter : PerfEvent) :
    (entry.apply report).events counter =
      (entry.eventValue counter).getD (report.events counter) := by
  cases entry with
  | event other value lead token tail =>
      by_cases hother : other = counter
      · simp [PerfLine.apply, PerfLine.eventValue, hother]
      · simp [PerfLine.apply, PerfLine.eventValue, hother, Ne.symm hother]
  | queue key value => rfl
  | header key value => rfl
  | elapsed seconds lead token => rfl
  | note line => rfl

theorem queue_apply (entry : PerfLine Seconds) (key : QueueKey) :
    (entry.apply report).queue key = (entry.queueValue key).getD (report.queue key) := by
  cases entry with
  | event counter value lead token tail => rfl
  | queue other value =>
      by_cases hother : other = key
      · simp [PerfLine.apply, PerfLine.queueValue, hother]
      · simp [PerfLine.apply, PerfLine.queueValue, hother, Ne.symm hother]
  | header key value => rfl
  | elapsed seconds lead token => rfl
  | note line => rfl

theorem headers_apply (entry : PerfLine Seconds) (key : HeaderKey) :
    (entry.apply report).headers key = (entry.headerValue key).getD (report.headers key) := by
  cases entry with
  | event counter value lead token tail => rfl
  | queue key value => rfl
  | header other value =>
      by_cases hother : other = key
      · simp [PerfLine.apply, PerfLine.headerValue, hother]
      · simp [PerfLine.apply, PerfLine.headerValue, hother, Ne.symm hother]
  | elapsed seconds lead token => rfl
  | note line => rfl

theorem elapsedSeconds_apply (entry : PerfLine Seconds) :
    (entry.apply report).elapsedSeconds = entry.seconds.getD report.elapsedSeconds := by
  cases entry <;> rfl

end Parts

theorem part_run {β : Type} (part : PerfStatReport Seconds → β)
    {assigned : PerfLine Seconds → Option β}
    (hpart : ∀ report entry, part (PerfLine.apply report entry) =
      (assigned entry).getD (part report)) (entries : List (PerfLine Seconds))
    (start : PerfStatReport Seconds) :
    part (entries.foldl PerfLine.apply start) = lastOr assigned (part start) entries :=
  foldl_eq_lastOr (fun report entry _ => hpart report entry) start

/-- Only the lines of counts give counts. -/
theorem lastOr_queueValue_filter (key : QueueKey) (entries : List (PerfLine Seconds)) :
    lastOr (PerfLine.queueValue key) 0 entries =
      lastOr (PerfLine.queueValue key) 0 (entries.filter PerfLine.isQueue) := by
  rw [lastOr, lastOr, List.filterMap_filter]
  congr 3
  funext entry
  cases entry <;> rfl

theorem lastOr_printed (outcome : QueuePerfOutcome) (key : QueueKey) :
    lastOr (PerfLine.queueValue key) 0
      ((outcome.printed : List (PerfLine Seconds)).filter PerfLine.isQueue) =
        outcome.counts key := by
  cases key <;> rfl

/-- What the program prints is well formed, line by line. -/
theorem printed_wellFormed (outcome : QueuePerfOutcome) (stod : Bytes → Option Seconds) :
    ∀ entry ∈ (outcome.printed : List (PerfLine Seconds)),
      entry.WellFormed stod ∧ newline ∉ entry.text := by
  intro entry hmem
  rcases List.mem_cons.mp hmem with rfl | hmem
  · have hline : newline ∉ asciiText "spsc_queue_perf_complete" := by decide
    refine ⟨⟨by decide, by decide, by decide, ?_⟩, hline⟩
    intro key
    cases key <;> decide
  · obtain ⟨key, -, rfl⟩ := List.mem_map.mp hmem
    have hkey : newline ∉ key.start := by cases key <;> decide
    exact ⟨trivial, not_mem_queue hkey (by decide)⟩

/-- A run of two requests with a counter of the machine before and two after it.  The rate in
the second comment names another counter. -/
def sampleRecording (outcome : QueuePerfOutcome) : List (PerfLine Bytes) :=
  .event .cycles 1234567 4 (asciiText "1,234,567") (asciiText "  cycles") ::
    outcome.printed ++
    [.event .branchMisses 12 9 (asciiText "12") (asciiText "  branch-misses # of all branches"),
      .elapsed (asciiText "0.25") 6 (asciiText "0.25")]

/-- A counter that is not supported has no number; its name gives one. -/
example : parseEventLine (asciiText "   <not supported>      L1-dcache-loads") (fun _ => 0)
    .l1DcacheLoads = 1 := by
  decide

end Fgep.Apps
