import LoginVault.Proofs.FrontEnds.ExitStatus
import Mathlib.Algebra.Order.Field.Power
import Mathlib.Data.EReal.Basic
import Mathlib.Data.List.DropRight

/-!
# Config.Soundness — what a configuration promises

A sound configuration has an address that does not end in a slash, a time limit greater than zero
and a page size of at least one. Values that are not refused give such a configuration, whether
they come from a caller, from the environment or from a command line, and a sound configuration
is built again from its own values.

Two kinds of values get past the checks, which look at the values as they are given. An address of
slashes is not empty, but nothing is left of it. A NaN is not at most zero, nor is it greater.

Main results: `Config.soundness` and `Config.unsound_accepted`.
-/

namespace LoginVault

/-! ## Time limits -/

/-- The number as an extended real. A NaN is none. -/
noncomputable def Binary64.value? : Binary64 → Option EReal
  | .nan => none
  | .infinite negative => some (if negative then ⊥ else ⊤)
  | .finite negative m q =>
    let magnitude : ℝ := m * 2 ^ q
    some ((if negative then -magnitude else magnitude : ℝ) : EReal)

theorem Binary64.value?_eq_none_iff {x : Binary64} : x.value? = none ↔ x = .nan := by
  cases x <;> simp [value?]

theorem Binary64.isNonPositive_iff {x : Binary64} :
    x.isNonPositive = true ↔ ∃ v ∈ x.value?, v ≤ 0 := by
  cases x with
  | nan => simp [isNonPositive, value?]
  | infinite negative => cases negative <;> simp [isNonPositive, value?]
  | finite negative m q =>
    have hpower : (0 : ℝ) < 2 ^ q := zpow_pos two_pos q
    have hmagnitude : (0 : ℝ) ≤ m * 2 ^ q := mul_nonneg m.cast_nonneg hpower.le
    have hreal (r : ℝ) : (∃ v ∈ some (r : EReal), v ≤ 0) ↔ r ≤ 0 := by simp
    rw [value?, hreal]
    cases negative with
    | true => simpa [isNonPositive] using hmagnitude
    | false =>
      have hzero : (m : ℝ) * 2 ^ q ≤ 0 ↔ m = 0 := by
        rw [hmagnitude.ge_iff_eq', mul_eq_zero, Nat.cast_eq_zero]
        simp [hpower.ne']
      simp [isNonPositive, hzero]

/-- The limit as an extended real. -/
noncomputable def Seconds.value? : Seconds → Option EReal
  | .whole n => some ((n : ℝ) : EReal)
  | .real x => x.value?

theorem Seconds.value?_eq_none_iff {t : Seconds} : t.value? = none ↔ t = .real .nan := by
  cases t with
  | whole n => simp [value?]
  | real x => simp [value?, Binary64.value?_eq_none_iff]

theorem Seconds.isNonPositive_iff {t : Seconds} :
    t.isNonPositive = true ↔ ∃ v ∈ t.value?, v ≤ 0 := by
  cases t with
  | whole n => simp [isNonPositive, value?]
  | real x => exact Binary64.isNonPositive_iff

theorem Seconds.isNonPositive_eq_false_iff {t : Seconds} :
    t.isNonPositive = false ↔ ¬ ∃ v ∈ t.value?, v ≤ 0 := by
  rw [← isNonPositive_iff, Bool.not_eq_true]

/-- Whether the limit is greater than zero. -/
def Seconds.IsPositive (t : Seconds) : Prop := ∃ v ∈ t.value?, 0 < v

/-- A limit that does not compare as at most zero is greater, if it is a number. -/
theorem Seconds.isPositive_iff {t : Seconds} :
    t.IsPositive ↔ t.isNonPositive = false ∧ t ≠ .real .nan := by
  rw [isNonPositive_eq_false_iff, ne_eq, ← value?_eq_none_iff, IsPositive]
  cases t.value? with
  | none => simp
  | some v => simp

namespace Config

/-! ## Addresses -/

/-- Whether the last character is a slash. -/
def EndsInSlash (s : String) : Prop := s.toList.getLast? = some '/'

/-- Whether there is no character but slashes. -/
def IsSlashes (s : String) : Prop := ∀ c ∈ s.toList, c = '/'

theorem toList_dropSlashes (address : String) :
    (dropSlashes address).toList = address.toList.rdropWhile (· == '/') := by
  rw [dropSlashes, String.toList_ofList, List.rdropWhile]

theorem not_endsInSlash_dropSlashes (address : String) : ¬ EndsInSlash (dropSlashes address) := by
  intro slash
  rw [EndsInSlash, toList_dropSlashes] at slash
  obtain ⟨nonempty, hlast⟩ := List.mem_getLast?_eq_getLast slash
  exact List.rdropWhile_last_not _ _ nonempty (by simp [← hlast])

theorem dropSlashes_eq_empty_iff {address : String} :
    dropSlashes address = "" ↔ IsSlashes address := by
  rw [← String.toList_eq_nil_iff, toList_dropSlashes, List.rdropWhile_eq_nil_iff]
  simp [IsSlashes]

/-- Slashes are dropped and nothing else. -/
theorem exists_dropped (address : String) :
    ∃ slashes, IsSlashes slashes ∧ address = dropSlashes address ++ slashes := by
  refine ⟨String.ofList (address.toList.rtakeWhile (· == '/')), ?_, ?_⟩
  · intro c hc
    rw [String.toList_ofList] at hc
    simpa using List.mem_rtakeWhile_imp hc
  · rw [← String.toList_inj, String.toList_append, toList_dropSlashes, String.toList_ofList,
      List.rdropWhile_append_rtakeWhile]

theorem dropSlashes_append {address slashes : String} (bare : ¬ EndsInSlash address)
    (dropped : IsSlashes slashes) : dropSlashes (address ++ slashes) = address := by
  have hslashes : (address ++ slashes).toList.rdropWhile (· == '/')
      = address.toList.rdropWhile (· == '/') := by
    rw [String.toList_append, List.rdropWhile, List.reverse_append,
      List.dropWhile_append_of_pos (by simpa [IsSlashes] using dropped), ← List.rdropWhile]
  rw [← String.toList_inj, toList_dropSlashes, hslashes, List.rdropWhile_eq_self_iff]
  intro nonempty hlast
  refine bare ?_
  rw [EndsInSlash, List.getLast?_eq_getLast_of_ne_nil nonempty]
  simpa using hlast

/-! ## Built configurations -/

/-- What is asked of a configuration. -/
structure IsSound (c : Config) : Prop where
  address : c.baseUrl ≠ ""
  bare : ¬ EndsInSlash c.baseUrl
  limit : c.timeout.IsPositive
  size : 1 ≤ c.pageSize

/-- Whether values pass the checks that are made on them as they are given. -/
structure Passes (address : String) (limit : Seconds) (size : Int) : Prop where
  address : address ≠ ""
  limit : ¬ ∃ v ∈ limit.value?, v ≤ 0
  size : 1 ≤ size

/-- What becomes of values that pass. -/
structure IsOf (address : String) (limit : Seconds) (size : Int) (c : Config) : Prop where
  passes : Passes address limit size
  kept : ∃ slashes, IsSlashes slashes ∧ address = c.baseUrl ++ slashes
  bare : ¬ EndsInSlash c.baseUrl
  limit : c.timeout = limit
  size : (c.pageSize : Int) = size

section

variable {address : String} {limit : Seconds} {size : Int} {c : Config}

/-- Values are refused if they fail a check. -/
theorem make?_of_not_passes (fails : ¬ Passes address limit size) :
    ∃ fault, make? address limit size = .error fault := by
  unfold make?
  split
  · exact ⟨_, rfl⟩
  rename_i nonempty
  split
  · exact ⟨_, rfl⟩
  rename_i above
  split
  · exact ⟨_, rfl⟩
  rename_i least
  refine absurd ⟨?_, ?_, by omega⟩ fails
  · simpa using nonempty
  · exact Seconds.isNonPositive_eq_false_iff.mp (by simpa using above)

/-- And otherwise they give a configuration. -/
theorem make?_of_passes (passes : Passes address limit size) :
    ∃ c, make? address limit size = .ok c ∧ c.IsOf address limit size := by
  have nonempty : ¬ address.isEmpty = true := by simpa using passes.address
  have above := Seconds.isNonPositive_eq_false_iff.mpr passes.limit
  have least : ¬ size < 1 := by
    have := passes.size
    omega
  refine ⟨⟨dropSlashes address, limit, size.toNat, by omega⟩, ?_, ?_⟩
  · simp [make?, nonempty, above, least]
  · exact {
      passes
      kept := exists_dropped address
      bare := not_endsInSlash_dropSlashes address
      limit := rfl
      size := Int.toNat_of_nonneg (by omega) }

/-- The values that a configuration is of leave no choice. -/
theorem IsOf.unique {c' : Config} (h : c.IsOf address limit size)
    (h' : c'.IsOf address limit size) : c' = c := by
  obtain ⟨slashes, dropped, hkept⟩ := h.kept
  obtain ⟨slashes', dropped', hkept'⟩ := h'.kept
  have hbaseUrl : c'.baseUrl = c.baseUrl := by
    rw [← dropSlashes_append h'.bare dropped', ← hkept', hkept, dropSlashes_append h.bare dropped]
  have htimeout : c'.timeout = c.timeout := h'.limit.trans h.limit.symm
  have hpageSize : c'.pageSize = c.pageSize := by
    have := h'.size.trans h.size.symm
    omega
  cases c
  cases c'
  subst hbaseUrl htimeout hpageSize
  rfl

theorem make?_eq_ok_iff : make? address limit size = .ok c ↔ c.IsOf address limit size := by
  constructor
  · intro made
    by_cases passes : Passes address limit size
    · obtain ⟨c', made', isOf⟩ := make?_of_passes passes
      obtain rfl : c' = c := Except.ok.inj (made'.symm.trans made)
      exact isOf
    · obtain ⟨fault, refused⟩ := make?_of_not_passes passes
      cases refused.symm.trans made
  · intro isOf
    obtain ⟨c', made', isOf'⟩ := make?_of_passes isOf.passes
    rw [made', isOf.unique isOf']

theorem exists_refused_iff :
    (∃ fault, make? address limit size = .error fault) ↔ ¬ Passes address limit size := by
  constructor
  · rintro ⟨fault, refused⟩ passes
    obtain ⟨c, made, -⟩ := make?_of_passes passes
    cases refused.symm.trans made
  · exact make?_of_not_passes

/-- A sound configuration is that of its own values. -/
theorem IsSound.isOf (sound : c.IsSound) : c.IsOf c.baseUrl c.timeout c.pageSize where
  passes := {
    address := sound.address
    limit := Seconds.isNonPositive_eq_false_iff.mp (Seconds.isPositive_iff.mp sound.limit).1
    size := by exact_mod_cast sound.size }
  kept := ⟨"", by simp [IsSlashes], by simp⟩
  bare := sound.bare
  limit := rfl
  size := rfl

/-- How far the checks go. Nothing is left of an address of slashes, and a NaN is no limit. -/
structure IsChecked (address : String) (limit : Seconds) (c : Config) : Prop where
  address : c.baseUrl ≠ "" ↔ ¬ IsSlashes address
  bare : ¬ EndsInSlash c.baseUrl
  limit : c.timeout.IsPositive ↔ limit ≠ .real .nan
  size : 1 ≤ c.pageSize

theorem IsOf.isChecked (h : c.IsOf address limit size) : c.IsChecked address limit where
  address := by
    obtain ⟨slashes, dropped, hkept⟩ := h.kept
    rw [← dropSlashes_eq_empty_iff, hkept, dropSlashes_append h.bare dropped]
  bare := h.bare
  limit := by
    rw [h.limit, Seconds.isPositive_iff]
    exact and_iff_right (Seconds.isNonPositive_eq_false_iff.mpr h.passes.limit)
  size := c.pageSize_pos

theorem IsChecked.isSound_iff (h : c.IsChecked address limit) :
    c.IsSound ↔ ¬ IsSlashes address ∧ limit ≠ .real .nan := by
  constructor
  · intro sound
    exact ⟨h.address.mp sound.address, h.limit.mp sound.limit⟩
  · rintro ⟨kept, number⟩
    exact ⟨h.address.mpr kept, h.bare, h.limit.mpr number, h.size⟩

/-- What is true of the configuration of values. -/
structure IsBuilt (address : String) (limit : Seconds) (size : Int) (c : Config) : Prop where
  isOf : c.IsOf address limit size
  checked : c.IsChecked address limit
  sound : c.IsSound ↔ ¬ IsSlashes address ∧ limit ≠ .real .nan

theorem isBuilt_iff : c.IsBuilt address limit size ↔ c.IsOf address limit size := by
  constructor
  · exact IsBuilt.isOf
  · intro isOf
    exact ⟨isOf, isOf.isChecked, isOf.isChecked.isSound_iff⟩

end

end Config

/-! ## The environment -/

namespace Environment

/-- The address that the environment gives. -/
def address (env : Environment) : String :=
  (env.setting? "GPASS_API_URL").getD Config.defaultBaseUrl

/-- The time limit that the environment gives. -/
def limit? (env : Environment) : Option Seconds :=
  (env.setting? "GPASS_TIMEOUT").elim (some Config.defaultTimeout)
    fun given => (Number.realSetting? given).map .real

/-- The page size that the environment gives. -/
def size? (env : Environment) : Option Int :=
  (env.setting? "GPASS_PAGE_SIZE").elim (some Config.defaultPageSize) Number.integerSetting?

end Environment

/-- A chain succeeds if each step does. -/
theorem bind_eq_ok_iff {ε α β : Type} {x : Except ε α} {next : α → Except ε β} {b : β} :
    x >>= next = .ok b ↔ ∃ a, x = .ok a ∧ next a = .ok b := by
  cases x with
  | error e => simp [bind, Except.bind]
  | ok a => simp [bind, Except.bind]

theorem mapError_eq_ok_iff {ε ε' α : Type} {x : Except ε α} {f : ε → ε'} {a : α} :
    x.mapError f = .ok a ↔ x = .ok a := by
  cases x with
  | error e => simp [Except.mapError]
  | ok a' => simp [Except.mapError]

namespace Config

theorem numberSetting_eq_ok_iff {α : Type} {env : Environment} {name : String} {kind : NumberKind}
    {read? : String → Option α} {default value : α} :
    numberSetting env name kind read? default = .ok value
      ↔ (env.setting? name).elim (some default) read? = some value := by
  unfold numberSetting
  cases env.setting? name with
  | none => simp
  | some given => cases hread : read? given <;> simp [hread]

/-- The environment gives a configuration if it gives two numbers, and they and its address pass. -/
theorem ofEnvironment_eq_ok_iff {env : Environment} {c : Config} :
    ofEnvironment env = .ok c
      ↔ ∃ limit size, env.limit? = some limit ∧ env.size? = some size
        ∧ c.IsOf env.address limit size := by
  simp only [ofEnvironment, bind_eq_ok_iff, numberSetting_eq_ok_iff, make?_eq_ok_iff]
  constructor
  · rintro ⟨limit, hlimit, size, hsize, isOf⟩
    exact ⟨limit, size, hlimit, hsize, isOf⟩
  · rintro ⟨limit, size, hlimit, hsize, isOf⟩
    exact ⟨limit, hlimit, size, hsize, isOf⟩

end Config

/-! ## Command lines -/

namespace CommandLine

/-- The address that an invocation uses: that of its words, or else of the environment. -/
def Invocation.addressIn (i : Invocation) (env : Environment) : String :=
  if i.address.isEmpty then env.address else i.address

/-- A client has the numbers of the environment, and the address that its invocation uses. -/
theorem Invocation.isOf_of_connect {i : Invocation} {env : Environment} {client : Client}
    (h : i.connect env = .ok client) :
    ∃ limit size, env.limit? = some limit ∧ env.size? = some size
      ∧ client.config.IsOf (i.addressIn env) limit size := by
  obtain ⟨given, hgiven, h⟩ := bind_eq_ok_iff.mp h
  obtain ⟨limit, size, hlimit, hsize, isOf⟩ :=
    Config.ofEnvironment_eq_ok_iff.mp (mapError_eq_ok_iff.mp hgiven)
  refine ⟨limit, size, hlimit, hsize, ?_⟩
  dsimp only at h
  unfold addressIn
  split at h
  · rename_i noAddress
    obtain ⟨config, hconfig, h⟩ := bind_eq_ok_iff.mp h
    obtain ⟨credentials, -, h⟩ := bind_eq_ok_iff.mp h
    obtain rfl := Except.ok.inj hconfig
    obtain rfl := Except.ok.inj h
    rw [if_pos noAddress]
    exact isOf
  · rename_i otherAddress
    obtain ⟨config, hconfig, h⟩ := bind_eq_ok_iff.mp h
    obtain ⟨credentials, -, h⟩ := bind_eq_ok_iff.mp h
    obtain rfl := Except.ok.inj h
    rw [if_neg otherAddress]
    -- the numbers pass through the configuration of the environment
    rw [← isOf.limit, ← isOf.size]
    exact Config.make?_eq_ok_iff.mp (mapError_eq_ok_iff.mp hconfig)

end CommandLine

/-! ## All configurations -/

namespace Config

/-- What is true of configurations, however they are built. -/
structure Soundness (address : String) (limit : Seconds) (size : Int) (env : Environment)
    (i : CommandLine.Invocation) : Prop where
  /-- Values are refused exactly if they fail a check as they are given. -/
  refused : (∃ fault, make? address limit size = .error fault) ↔ ¬ Passes address limit size
  values : ∀ c, make? address limit size = .ok c ↔ c.IsBuilt address limit size
  environment : ∀ c, ofEnvironment env = .ok c
    ↔ ∃ t n, env.limit? = some t ∧ env.size? = some n ∧ c.IsBuilt env.address t n
  commandLine : ∀ client, i.connect env = .ok client →
    ∃ t n, env.limit? = some t ∧ env.size? = some n
      ∧ client.config.IsBuilt (i.addressIn env) t n
  /-- A command line that gives no client is refused for its configuration or its credentials. -/
  unconnected : ∀ f, i.connect env = .error f → CommandLine.IsSetupFault f
  /-- A sound configuration is accepted again, and stays as it is. -/
  again : ∀ c : Config, c.IsSound → make? c.baseUrl c.timeout c.pageSize = .ok c

/-- All configurations that are built are sound, but for an address of slashes and a NaN. -/
theorem soundness (address : String) (limit : Seconds) (size : Int) (env : Environment)
    (i : CommandLine.Invocation) : Soundness address limit size env i where
  refused := exists_refused_iff
  values _ := by
    rw [isBuilt_iff, make?_eq_ok_iff]
  environment _ := by
    simp only [isBuilt_iff, ofEnvironment_eq_ok_iff]
  commandLine _ connected := by
    simp only [isBuilt_iff]
    exact CommandLine.Invocation.isOf_of_connect connected
  unconnected _ := CommandLine.connect_fault
  again _ sound := make?_eq_ok_iff.mpr sound.isOf

/-- An address of one slash is accepted and leaves nothing, and so is a NaN from the environment,
which is no limit at all. -/
theorem unsound_accepted :
    (∃ c : Config, make? "/" defaultTimeout defaultPageSize = .ok c
        ∧ c.baseUrl = "" ∧ ¬ c.IsSound)
      ∧ ∃ c : Config, ofEnvironment [("GPASS_TIMEOUT", "nan")] = .ok c
        ∧ c.timeout = .real .nan ∧ ¬ c.IsSound := by
  constructor
  · refine ⟨⟨"", defaultTimeout, 100, by decide⟩, by decide +kernel, rfl, ?_⟩
    intro sound
    exact sound.address rfl
  · refine ⟨⟨defaultBaseUrl, .real .nan, 100, by decide⟩, by decide +kernel, rfl, ?_⟩
    intro sound
    exact (Seconds.isPositive_iff.mp sound.limit).2 rfl

end Config

end LoginVault
