import TunnelitRelay.Concurrent.Schedule
import TunnelitRelay.Server

namespace TunnelitRelay

open Concurrent

/-! # The external code, made concrete

Identifiers are printed and parsed as `uuid` does it.  The hash is a stand-in:
nothing depends on its values.
-/

/-- The last `count` hexadecimal digits of a number, most significant first. -/
def nibbles (n : Nat) : Nat → List Nat
  | 0 => []
  | count + 1 => nibbles (n / 16) count ++ [n % 16]

def ofNibbles (digits : List Nat) : Nat :=
  digits.foldl (· * 16 + ·) 0

@[simp] theorem nibbles_length (n count : Nat) : (nibbles n count).length = count := by
  induction count generalizing n with
  | zero => rfl
  | succ count ih => simp [nibbles, ih]

theorem nibbles_lt {n count : Nat} : ∀ digit ∈ nibbles n count, digit < 16 := by
  induction count generalizing n with
  | zero => simp [nibbles]
  | succ count ih =>
      intro digit member
      rcases List.mem_append.mp member with old | last
      · exact ih digit old
      · rw [List.mem_singleton.mp last]
        exact Nat.mod_lt _ (by decide)

theorem ofNibbles_nibbles (n count : Nat) : ofNibbles (nibbles n count) = n % 16 ^ count := by
  induction count generalizing n with
  | zero => simp [nibbles, ofNibbles, Nat.mod_one]
  | succ count ih =>
      have split : ofNibbles (nibbles n (count + 1)) = ofNibbles (nibbles (n / 16) count) * 16 + n % 16 := by
        simp [nibbles, ofNibbles]
      rw [split, ih, Nat.pow_succ, Nat.mul_comm (16 ^ count) 16, Nat.mod_mul]
      omega

def hexDigit (digit : Nat) : Char :=
  if digit < 10 then Char.ofNat (48 + digit) else Char.ofNat (87 + digit)

/-- A hexadecimal digit of either case. -/
def hexValue (c : Char) : Option Nat :=
  if '0' ≤ c ∧ c ≤ '9' then some (c.toNat - 48)
  else if 'a' ≤ c ∧ c ≤ 'f' then some (c.toNat - 87)
  else if 'A' ≤ c ∧ c ≤ 'F' then some (c.toNat - 55)
  else none

theorem hexValue_hexDigit {digit : Nat} (small : digit < 16) : hexValue (hexDigit digit) = some digit := by
  have all : ∀ digit : Fin 16, hexValue (hexDigit digit) = some digit.val := by decide
  exact all ⟨digit, small⟩

theorem mapM_hexValue {digits : List Nat} (small : ∀ digit ∈ digits, digit < 16) :
    (digits.map hexDigit).mapM hexValue = some digits := by
  induction digits with
  | nil => rfl
  | cons digit rest ih =>
      simp [List.mapM_cons, hexValue_hexDigit (small digit (by simp)),
        ih fun other member => small other (by simp [member])]

/-- Join groups of the given sizes by hyphens. -/
def grouped : List Nat → List Char → List Char
  | [], _ => []
  | [size], chars => chars.take size
  | size :: sizes, chars => chars.take size ++ '-' :: grouped sizes (chars.drop size)

/-- Undo `grouped`, where the hyphens stand in the right places. -/
def ungrouped : List Nat → List Char → Option (List Char)
  | [], chars => if chars = [] then some [] else none
  | [size], chars => if chars.length = size then some chars else none
  | size :: sizes, chars =>
      match chars.drop size with
      | '-' :: rest => (ungrouped sizes rest).map (chars.take size ++ ·)
      | _ => none

theorem ungrouped_grouped {sizes : List Nat} {chars : List Char} (fits : chars.length = sizes.sum) :
    ungrouped sizes (grouped sizes chars) = some chars := by
  induction sizes generalizing chars with
  | nil =>
      have empty := List.length_eq_zero_iff.mp fits
      simp [grouped, ungrouped, empty]
  | cons size sizes ih =>
      cases sizes with
      | nil =>
          have all : chars.take size = chars := List.take_of_length_le (Nat.le_of_eq (by simpa using fits))
          simp [grouped, ungrouped, all, fits]
      | cons next more =>
          simp only [List.sum_cons] at fits ih
          have first : (chars.take size).length = size := by
            rw [List.length_take]
            omega
          have rest := @ih (chars.drop size) (by rw [List.length_drop]; omega)
          simp only [grouped, ungrouped]
          rw [List.drop_append_of_le_length (Nat.le_of_eq first.symm),
            List.drop_of_length_le (Nat.le_of_eq first)]
          simp only [List.nil_append, rest, Option.map_some]
          rw [List.take_append_of_le_length (Nat.le_of_eq first.symm),
            List.take_of_length_le (Nat.le_of_eq first), List.take_append_drop]

def printUuid (id : Uuid) : String :=
  String.ofList (grouped [8, 4, 4, 4, 12] ((nibbles id.toNat 32).map hexDigit))

def parseSimple (chars : List Char) : Option Uuid :=
  if chars.length = 32 then (chars.mapM hexValue).map fun digits => BitVec.ofNat 128 (ofNibbles digits)
  else none

def parseHyphenated (chars : List Char) : Option Uuid :=
  (ungrouped [8, 4, 4, 4, 12] chars).bind parseSimple

/-- The four spellings `Uuid::parse_str` accepts: 32 digits, and 36 characters
with hyphens, alone, in braces or after `urn:uuid:`. -/
def readUuid (text : String) : Option Uuid :=
  let chars := text.toList
  if chars.length = 32 then parseSimple chars
  else if chars.length = 36 then parseHyphenated chars
  else if chars.length = 38 ∧ chars.head? = some (Char.ofNat 123) ∧ chars.getLast? = some (Char.ofNat 125) then
    parseHyphenated ((chars.drop 1).take 36)
  else if chars.length = 45 ∧ chars.take 9 = "urn:uuid:".toList then parseHyphenated (chars.drop 9)
  else none

theorem readUuid_printUuid (id : Uuid) : readUuid (printUuid id) = some id := by
  have digits : ((nibbles id.toNat 32).map hexDigit).length = 32 := by simp
  have width : (grouped [8, 4, 4, 4, 12] ((nibbles id.toNat 32).map hexDigit)).length = 36 := by
    simp [grouped]
  have fits : id.toNat % 16 ^ 32 = id.toNat :=
    Nat.mod_eq_of_lt (Nat.lt_of_lt_of_eq id.isLt (by decide))
  have simple : parseSimple ((nibbles id.toNat 32).map hexDigit) = some id := by
    rw [parseSimple, if_pos digits, mapM_hexValue nibbles_lt, Option.map_some, ofNibbles_nibbles, fits]
    simp
  simp only [readUuid, printUuid, String.toList_ofList, width]
  rw [if_neg (by decide), if_pos trivial, parseHyphenated, ungrouped_grouped (by simp), Option.bind_some, simple]

def base64Value (c : Char) : Option Nat :=
  if 'A' ≤ c ∧ c ≤ 'Z' then some (c.toNat - 65)
  else if 'a' ≤ c ∧ c ≤ 'z' then some (c.toNat - 71)
  else if '0' ≤ c ∧ c ≤ '9' then some (c.toNat + 4)
  else if c = '+' then some 62
  else if c = '/' then some 63
  else none

/-- Padded base64; the unused bits of the last digit are zero. -/
def readBase64 : List Char → Option (List UInt8)
  | [] => some []
  | [a, b, '=', '='] => do
      let x ← base64Value a
      let y ← base64Value b
      if y % 16 = 0 then some [UInt8.ofNat (x * 4 + y / 16)] else none
  | [a, b, c, '='] => do
      let x ← base64Value a
      let y ← base64Value b
      let z ← base64Value c
      if z % 4 = 0 then some [UInt8.ofNat (x * 4 + y / 16), UInt8.ofNat (y % 16 * 16 + z / 4)] else none
  | a :: b :: c :: d :: rest => do
      let x ← base64Value a
      let y ← base64Value b
      let z ← base64Value c
      let w ← base64Value d
      let bytes ← readBase64 rest
      some (UInt8.ofNat (x * 4 + y / 16) :: UInt8.ofNat (y % 16 * 16 + z / 4) ::
        UInt8.ofNat (z % 4 * 64 + w) :: bytes)
  | _ => none

def base64Digit (n : Nat) : Char :=
  if n < 26 then Char.ofNat (n + 65)
  else if n < 52 then Char.ofNat (n + 71)
  else if n < 62 then Char.ofNat (n - 4)
  else if n = 62 then '+'
  else '/'

theorem base64Value_digit {n : Nat} (small : n < 64) : base64Value (base64Digit n) = some n := by
  have all : ∀ n < 64, base64Value (base64Digit n) = some n := by decide
  exact all n small

theorem base64Digit_ne {n : Nat} (small : n < 64) : base64Digit n ≠ '=' := by
  have all : ∀ n < 64, base64Digit n ≠ '=' := by decide
  exact all n small

def writeBase64 : List UInt8 → List Char
  | [] => []
  | [a] => [base64Digit (a.toNat / 4), base64Digit (a.toNat % 4 * 16), '=', '=']
  | [a, b] =>
      [base64Digit (a.toNat / 4), base64Digit (a.toNat % 4 * 16 + b.toNat / 16),
        base64Digit (b.toNat % 16 * 4), '=']
  | a :: b :: c :: rest =>
      base64Digit (a.toNat / 4) :: base64Digit (a.toNat % 4 * 16 + b.toNat / 16) ::
        base64Digit (b.toNat % 16 * 4 + c.toNat / 64) :: base64Digit (c.toNat % 64) :: writeBase64 rest

theorem readBase64_writeBase64 (bytes : List UInt8) : readBase64 (writeBase64 bytes) = some bytes := by
  have byte (n : Nat) (b : UInt8) (same : n = b.toNat) : UInt8.ofNat n = b := by
    rw [same, UInt8.ofNat_toNat]
  induction bytes using writeBase64.induct with
  | case1 => rfl
  | case2 a =>
      have bound := a.toNat_lt
      simp only [writeBase64, readBase64]
      rw [base64Value_digit (by omega), base64Value_digit (by omega)]
      simp only [Option.bind_eq_bind, Option.bind_some]
      rw [if_pos (by omega), byte _ a (by omega)]
  | case3 a b =>
      have boundA := a.toNat_lt
      have boundB := b.toNat_lt
      have inner : base64Digit (b.toNat % 16 * 4) ≠ '=' := base64Digit_ne (by omega)
      simp only [writeBase64]
      rw [readBase64]
      · rw [base64Value_digit (by omega), base64Value_digit (by omega), base64Value_digit (by omega)]
        simp only [Option.bind_eq_bind, Option.bind_some]
        rw [if_pos (by omega), byte _ a (by omega), byte _ b (by omega)]
      · exact inner
  | case4 a b c rest ih =>
      have boundA := a.toNat_lt
      have boundB := b.toNat_lt
      have boundC := c.toNat_lt
      have last : base64Digit (c.toNat % 64) ≠ '=' := base64Digit_ne (by omega)
      simp only [writeBase64]
      rw [readBase64]
      · rw [base64Value_digit (by omega), base64Value_digit (by omega), base64Value_digit (by omega),
          base64Value_digit (by omega), ih]
        simp only [Option.bind_eq_bind, Option.bind_some]
        rw [byte _ a (by omega), byte _ b (by omega), byte _ c (by omega)]
      · exact fun _ same _ => last same
      · exact fun same _ => last same

instance standard : Externals where
  uuidToString := printUuid
  parseUuid := readUuid
  parseUuid_toString := readUuid_printUuid
  decodeBase64 := fun text => readBase64 text.toList
  encodeBase64 := fun bytes => .ofList (writeBase64 bytes)
  decodeBase64_encode := fun bytes => by rw [String.toList_ofList, readBase64_writeBase64]
  defaultHash := fun text => text.toList.foldl (fun hash c => hash * 31 + UInt64.ofNat c.toNat) 7

/-! ## An environment to run examples in -/

/-- The environment of the `n`-th job of an example: nothing fails, and the
identifiers drawn are `2 * n` and `2 * n + 1`. -/
def answer (n : Nat) (code : Nat) : Choice where
  fault := none
  now := n
  id := BitVec.ofNat 128 (2 * n)
  token := BitVec.ofNat 128 (2 * n + 1)
  code := code
  ports := fun _ => n
  bindError := none

/-- The headers of a user whose session was issued in the `n`-th job. -/
def signedIn (n : Nat) : HeaderMap :=
  [("x-session-token", some (userToken (BitVec.ofNat 128 (2 * n + 1))))]

/-- A request for a TCP tunnel to port 80 of an agent. -/
def webTunnel (agentId : Uuid) : CreateTunnelRequest where
  agentId := uuidToString agentId
  name := "web"
  localPort := 80
  protocol := "tcp"
  preferredPort := none
  subdomain := none

/-- A relay just started on an empty database. -/
def newRelay : World := World.initial (10000, 60000) Database.empty []

/-- A check passed after a list of jobs is passed by a configuration that is
reached with no task in progress. -/
theorem newRelay_check {jobs : List (Job × Choice)} {check : World → Bool}
    (passed : (relay.performAll jobs newRelay).any check = true) :
    ∃ config, Reached anyStep (10000, 60000) config ∧ config.Quiet ∧ check config.state = true := by
  obtain ⟨state, threads, reached, quiet, checked⟩ := @System.performAll_check _ relay _ _ _ passed
  exact ⟨⟨state, threads⟩, reached, quiet, checked⟩

/-- The jobs one after the other, each as a task of its own. -/
def inOrder (jobs : List (Job × Choice)) : List (Turn relay) :=
  jobs.zipIdx.flatMap fun entry => [.start entry.1.1, .finish entry.2 entry.1.2]

/-- A test passed by the configuration at the end of a schedule is passed by one
that is reached by steps which pass the check. -/
theorem newRelay_follow {check : Check relay} {turns : List (Turn relay)} {test : Config relay → Bool}
    (passed : (relay.follow check 200 turns ⟨newRelay, []⟩).any test = true) :
    ∃ config, Reached check.condition (10000, 60000) config ∧ test config = true := by
  obtain ⟨config, followed, tested⟩ := (Option.any_eq_true _ _).mp passed
  exact ⟨config, System.follow_steps followed, tested⟩

/-- The same where nothing was checked on the way. -/
theorem newRelay_run {turns : List (Turn relay)} {test : Config relay → Bool}
    (passed : (relay.follow (fun _ _ _ _ => true) 200 turns ⟨newRelay, []⟩).any test = true) :
    ∃ config, Reached anyStep (10000, 60000) config ∧ test config = true := by
  obtain ⟨config, reached, tested⟩ := newRelay_follow passed
  exact ⟨config, reached.weaken fun _ _ _ => trivial, tested⟩

/-- The same for two configurations of one run. -/
theorem newRelay_runs {early late : List (Turn relay)} {test : Config relay → Config relay → Bool}
    (passed : (relay.follow (fun _ _ _ _ => true) 200 early ⟨newRelay, []⟩).any (fun first =>
      (relay.follow (fun _ _ _ _ => true) 200 late first).any (test first)) = true) :
    ∃ first last, Reached anyStep (10000, 60000) first ∧ Steps anyStep first last ∧
      test first last = true := by
  obtain ⟨first, reached, later⟩ := newRelay_run passed
  obtain ⟨last, followed, tested⟩ := (Option.any_eq_true _ _).mp later
  exact ⟨first, last, reached, (System.follow_steps followed).weaken fun _ _ _ => trivial, tested⟩

end TunnelitRelay
