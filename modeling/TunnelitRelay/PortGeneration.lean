import TunnelitRelay.Standard

namespace TunnelitRelay

/-! # The generator of dedicated ports -/

def PortTaken (db : Database) (port : UInt16) : Prop :=
  ∃ user ∈ db.users, user.dedicatedPort = port

/-- The port drawn from a random number, with `u16` arithmetic checked: there is
none where the difference is negative, the divisor zero or the sum too large. -/
def drawPort (portRange : UInt16 × UInt16) (draw : Nat) : Option UInt16 :=
  if portRange.2 < portRange.1 then none
  else
    let modulus := (portRange.2 - portRange.1).toNat
    if modulus = 0 then none
    else if 65536 ≤ draw % modulus + portRange.1.toNat then none
    else some (UInt16.ofNat (draw % modulus) + portRange.1)

/-- What the generator answers when it looks through the ports that satisfy
`allowed`: a free one of them, or an error if no query found any. -/
def Searched (choice : Choice) (db : Database) (allowed : UInt16 → Prop) :
    Except Failure UInt16 → Prop
  | .ok port => allowed port ∧ ¬PortTaken db port
  | .error failure => (∃ text, failure = .error text) ∧
      ((∀ statement, 0 < statement → choice.refuses statement = none) →
        ∀ port, allowed port → PortTaken db port)

/-- Registering a user is safe: the arithmetic of every draw is exact, and the
answer is a port between the two bounds or an error. -/
def RegistersSafely [Externals] (choice : Choice) (portRange : UInt16 × UInt16) (db : Database)
    (username password : String) : Prop :=
  (∀ attempt < 1000, (drawPort portRange (choice.ports attempt)).isSome) ∧
    match (Db.registerUser choice portRange db username password).2 with
    | .ok record =>
        portRange.1 ≤ record.dedicatedPort ∧ record.dedicatedPort ≤ portRange.2 ∨
          portRange.2 ≤ record.dedicatedPort ∧ record.dedicatedPort ≤ portRange.1
    | .error failure => failure ≠ .panicked

/-! ## The random phase -/

theorem modulus_toNat {portRange : UInt16 × UInt16} (ordered : portRange.1 < portRange.2) :
    (portRange.2 - portRange.1).toNat = portRange.2.toNat - portRange.1.toNat :=
  UInt16.toNat_sub_of_le _ _ (UInt16.le_of_lt ordered)

/-- On a range of at least two ports no draw overflows, and it is below the upper bound. -/
theorem drawPort_exact {portRange : UInt16 × UInt16} (ordered : portRange.1 < portRange.2) (draw : Nat) :
    drawPort portRange draw = some (UInt16.ofNat (draw % (portRange.2 - portRange.1).toNat) + portRange.1) ∧
      portRange.1 ≤ UInt16.ofNat (draw % (portRange.2 - portRange.1).toNat) + portRange.1 ∧
      UInt16.ofNat (draw % (portRange.2 - portRange.1).toNat) + portRange.1 < portRange.2 := by
  have apart := UInt16.lt_iff_toNat_lt.mp ordered
  have modulus := modulus_toNat ordered
  have bound := portRange.2.toNat_lt
  have small : draw % (portRange.2 - portRange.1).toNat < (portRange.2 - portRange.1).toNat :=
    Nat.mod_lt _ (by omega)
  have value : (UInt16.ofNat (draw % (portRange.2 - portRange.1).toNat) + portRange.1).toNat =
      draw % (portRange.2 - portRange.1).toNat + portRange.1.toNat := by
    rw [UInt16.toNat_add, UInt16.toNat_ofNat_of_lt' (by rw [UInt16.size]; omega), Nat.mod_eq_of_lt (by omega)]
  refine ⟨?_, UInt16.le_iff_toNat_le.mpr (by omega), UInt16.lt_iff_toNat_lt.mpr (by omega)⟩
  rw [drawPort, if_neg (UInt16.not_lt.mpr (UInt16.le_of_lt ordered))]
  simp only
  rw [if_neg (by omega), if_neg (by omega)]

/-- With equal or reversed bounds no draw is computed exactly. -/
theorem drawPort_unordered {portRange : UInt16 × UInt16} (unordered : ¬portRange.1 < portRange.2)
    (draw : Nat) : drawPort portRange draw = none := by
  by_cases reversed : portRange.2 < portRange.1
  · rw [drawPort, if_pos reversed]
  · have same : portRange.2 - portRange.1 = 0 := by
      rw [UInt16.le_antisymm (UInt16.not_lt.mp unordered) (UInt16.not_lt.mp reversed)]
      simp
    rw [drawPort, if_neg reversed]
    simp [same]

/-! ## The search -/

/-- A statement is refused with an error of the driver, never by a panic. -/
theorem refuses_error {choice : Choice} {statement : Nat} {failure : Failure}
    (refused : choice.refuses statement = some failure) : ∃ text, failure = .error text := by
  rw [Choice.refuses] at refused
  split at refused
  · split at refused
    · exact ⟨_, (Option.some.inj refused).symm⟩
    · exact absurd refused (by simp)
  · exact absurd refused (by simp)

theorem countP_zero {db : Database} {port : UInt16} :
    (db.users.countP fun user => user.dedicatedPort == port) = 0 ↔ ¬PortTaken db port := by
  simp [List.countP_eq_zero, PortTaken]

/-- One query of the search, and what is done where the port is taken. -/
theorem Searched.query {choice : Choice} {db : Database} {allowed : UInt16 → Prop} {port : UInt16}
    {statement : Nat} (positive : 0 < statement) (inside : allowed port) {next : Except Failure UInt16}
    (later : PortTaken db port → Searched choice db allowed next) :
    Searched choice db allowed (do
      let count ← choice.statement statement
        (.ok (db.users.countP fun user => user.dedicatedPort == port))
      if count = 0 then .ok port else next) := by
  cases refused : choice.refuses statement with
  | some failure =>
      simp only [Choice.statement, refused]
      refine ⟨?_, fun answered => ?_⟩
      · exact refuses_error refused
      · exact absurd (refused.symm.trans (answered statement positive)) (by simp)
  | none =>
      simp only [Choice.statement, refused]
      change Searched choice db allowed (if (db.users.countP _) = 0 then .ok port else next)
      split
      · rename_i free
        exact ⟨inside, countP_zero.mp free⟩
      · rename_i taken
        exact later (not_not.mp fun free => taken (countP_zero.mpr free))

/-- The sequential search ends with the ports not taken before it. -/
theorem fallbackPort_searched {choice : Choice} {db : Database} {allowed : UInt16 → Prop}
    (ports : List UInt16) (inside : ∀ port ∈ ports, allowed port)
    (rest : ∀ port, allowed port → port ∉ ports → PortTaken db port) :
    Searched choice db allowed (Db.fallbackPort choice db ports) := by
  induction ports with
  | nil => exact ⟨⟨_, rfl⟩, fun _ port within => rest port within List.not_mem_nil⟩
  | cons port ports ih =>
      rw [Db.fallbackPort]
      apply Searched.query (by omega) (inside port List.mem_cons_self)
      intro taken
      apply ih fun other member => inside other (List.mem_cons_of_mem _ member)
      intro other within absent
      by_cases same : other = port
      · exact same ▸ taken
      · exact rest other within fun member => (List.mem_cons.mp member).elim same absent

theorem mem_portRange {portRange : UInt16 × UInt16} (port : UInt16) :
    port ∈ (List.range' portRange.1.toNat (portRange.2.toNat + 1 - portRange.1.toNat)).map UInt16.ofNat ↔
      portRange.1 ≤ port ∧ port ≤ portRange.2 := by
  have bound := portRange.2.toNat_lt
  rw [List.mem_map]
  constructor
  · rintro ⟨value, member, rfl⟩
    have range := List.mem_range'_1.mp member
    have exact : (UInt16.ofNat value).toNat = value :=
      UInt16.toNat_ofNat_of_lt' (by rw [UInt16.size]; omega)
    exact ⟨UInt16.le_iff_toNat_le.mpr (by omega), UInt16.le_iff_toNat_le.mpr (by omega)⟩
  · rintro ⟨above, below⟩
    have above := UInt16.le_iff_toNat_le.mp above
    have below := UInt16.le_iff_toNat_le.mp below
    exact ⟨port.toNat, List.mem_range'_1.mpr (by omega), UInt16.ofNat_toNat⟩

/-- Whatever is drawn: the attempts look only at ports of the range, and after
them every port of it is tried in turn. -/
theorem randomPort_searched {choice : Choice} {db : Database} {portRange : UInt16 × UInt16}
    (ordered : portRange.1 < portRange.2) (attempts : Nat) :
    Searched choice db (fun port => portRange.1 ≤ port ∧ port ≤ portRange.2)
      (Db.randomPort choice db portRange attempts) := by
  induction attempts with
  | zero =>
      apply fallbackPort_searched _ fun port member => (mem_portRange port).mp member
      exact fun port within absent => absurd ((mem_portRange port).mpr within) absent
  | succ attempts ih =>
      have apart := UInt16.lt_iff_toNat_lt.mp ordered
      obtain ⟨-, above, below⟩ := drawPort_exact ordered (choice.ports (999 - attempts))
      rw [Db.randomPort]
      simp only
      rw [if_neg (by rw [modulus_toNat ordered]; omega)]
      exact Searched.query (by omega) ⟨above, UInt16.le_of_lt below⟩ fun _ => ih

/-- The generator is sound and complete on every range of two ports or more. -/
theorem generate_unique_dedicated_port_sound_complete (choice : Choice) (db : Database)
    (portRange : UInt16 × UInt16) (ordered : portRange.1 < portRange.2)
    (answered : ∀ statement, 0 < statement → choice.refuses statement = none) :
    (∀ port, Db.generateUniqueDedicatedPort choice db portRange = .ok port →
      portRange.1 ≤ port ∧ port ≤ portRange.2 ∧ ∀ user ∈ db.users, user.dedicatedPort ≠ port) ∧
    (∀ attempt, ∃ port, drawPort portRange (choice.ports attempt) = some port) ∧
    Db.generateUniqueDedicatedPort choice db portRange ≠ .error .panicked ∧
    ((∃ text, Db.generateUniqueDedicatedPort choice db portRange = .error (.error text)) ↔
      ∀ port, portRange.1 ≤ port → port ≤ portRange.2 → ∃ user ∈ db.users, user.dedicatedPort = port) := by
  have searched := @randomPort_searched choice db portRange ordered 1000
  rw [Db.generateUniqueDedicatedPort]
  refine ⟨fun port found => ?_, fun attempt => ⟨_, (drawPort_exact ordered _).1⟩, fun panics => ?_, ?_⟩
  · rw [found] at searched
    obtain ⟨⟨above, below⟩, free⟩ := searched
    exact ⟨above, below, fun user listed same => free ⟨user, listed, same⟩⟩
  · rw [panics] at searched
    obtain ⟨⟨text, same⟩, -⟩ := searched
    exact absurd same (by simp)
  · constructor
    · rintro ⟨text, failed⟩ port above below
      rw [failed] at searched
      exact searched.2 answered port ⟨above, below⟩
    · intro taken
      cases result : Db.randomPort choice db portRange 1000 with
      | ok port =>
          rw [result] at searched
          obtain ⟨⟨above, below⟩, free⟩ := searched
          exact absurd (taken port above below) free
      | error failure =>
          rw [result] at searched
          obtain ⟨⟨text, rfl⟩, -⟩ := searched
          exact ⟨text, rfl⟩

/-- A table in which the only user has the lower of two ports, and draws that always hit it. -/
def oneTaken : Database :=
  { Database.empty with
    users := [{ id := "1", username := "alice", dedicatedPort := 10000, isBanned := false, createdAt := 0,
                passwordHash := "" }] }

theorem generate_unique_dedicated_port_last :
    ((10000 : UInt16) < 10001) ∧ ∀ port,
      Db.generateUniqueDedicatedPort (answer 0 0) oneTaken (10000, 10001) = .ok port →
        10000 ≤ port ∧ port ≤ 10001 ∧ ∀ user ∈ oneTaken.users, user.dedicatedPort ≠ port :=
  ⟨by decide, (generate_unique_dedicated_port_sound_complete (answer 0 0) oneTaken (10000, 10001)
    (by decide) fun _ _ => rfl).1⟩

example : Db.generateUniqueDedicatedPort (answer 0 0) oneTaken (10000, 10001) = .ok 10001 := by
  decide +kernel

/-! ## Registration -/

theorem insertion_error {choice : Choice} {db : Database} {row : UserRow} {failure : Failure}
    (failed : choice.statement 0 (Db.insertUser db row) = .error failure) : ∃ text, failure = .error text := by
  rw [Choice.statement] at failed
  split at failed
  · rename_i refused
    obtain rfl := Except.error.inj failed
    exact refuses_error refused
  · simp only [Db.insertUser] at failed
    split_ifs at failed
    all_goals exact ⟨_, (Except.error.inj failed).symm⟩

/-- Registering a user is safe exactly where the range has two ports or more:
the modulus is the difference of the bounds, which the fallback search includes both. -/
theorem registers_safely_iff [Externals] (choice : Choice) (portRange : UInt16 × UInt16) (db : Database)
    (username password : String) :
    RegistersSafely choice portRange db username password ↔ portRange.1 < portRange.2 := by
  constructor
  · rintro ⟨exact, -⟩
    by_contra unordered
    have drawn := exact 0 (by decide)
    rw [drawPort_unordered unordered] at drawn
    exact absurd drawn (by simp)
  · intro ordered
    have searched := @randomPort_searched choice db portRange ordered 1000
    refine ⟨fun attempt _ => by rw [(drawPort_exact ordered _).1]; rfl, ?_⟩
    rw [Db.registerUser, Db.generateUniqueDedicatedPort]
    cases result : Db.randomPort choice db portRange 1000 with
    | error failure =>
        rw [result] at searched
        obtain ⟨⟨text, rfl⟩, -⟩ := searched
        simp
    | ok port =>
        rw [result] at searched
        obtain ⟨⟨above, below⟩, -⟩ := searched
        simp only [Database.write]
        split
        · rename_i record stored
          split at stored
          · obtain rfl := Except.ok.inj stored
            exact .inl ⟨above, below⟩
          · exact absurd stored (by simp)
        · rename_i failure failed
          split at failed
          · exact absurd failed (by simp)
          · rename_i reason refused
            obtain rfl := Except.error.inj failed
            obtain ⟨text, rfl⟩ := insertion_error refused
            simp

/-- With equal bounds the first registration divides by zero, although the one
port of the range is free. -/
theorem one_port_range_panics :
    (Db.registerUser (answer 0 0) (10000, 10000) Database.empty "alice" "secret").2 = .error .panicked ∧
      ¬RegistersSafely (answer 0 0) (10000, 10000) Database.empty "alice" "secret" := by
  have panics : (Db.registerUser (answer 0 0) (10000, 10000) Database.empty "alice" "secret").2 =
      .error .panicked := by
    decide +kernel
  refine ⟨panics, fun safely => ?_⟩
  have answered := safely.2
  rw [panics] at answered
  exact answered rfl

-- Reversed bounds wrap around, to ports outside both of them.
example : Db.generateUniqueDedicatedPort (answer 5 0) Database.empty (20000, 10000) = .ok 20005 := by
  decide +kernel

end TunnelitRelay
