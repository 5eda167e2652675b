import Sysio.Tinfo.Carried

/-!
# What the groups of a full frame state

The tariff period, the status word, the tariff option and tomorrow's colour, each by the last of
the groups that state it, in whatever order the groups come (`tinfoStated`). The receiver reads
the groups one after the other (`TinfoCarried.read`), and looks for a colour only once it knows of
a Tempo contract, and for a warning only while it takes the current for that of a single phase;
apart from that it comes to know what they state (`tells_foldl`).
-/

namespace Sysio.Tinfo

namespace TinfoGroup

/-- The tariff option that the group states, if it states one. -/
def optarif (g : TinfoGroup) : Option UInt32 :=
  if g.label = ascii "OPTARIF" then
    if g.data = ascii "BASE" then some eTinfoOpTarifBase
    else if g.data = ascii "HC.." then some eTinfoOpTarifHc
    else if g.data = ascii "EJP." then some eTinfoOpTarifEjp
    else if g.data.take 3 = ascii "BBR" then some eTinfoOpTarifTempo
    else none
  else none

/-- The period, counted from 1. -/
def ptec (g : TinfoGroup) : Option UInt32 :=
  if g.label = ascii "PTEC" then
    (sPtecList.findIdx? (· = g.data)).map fun ptec => .ofNat (ptec + 1)
  else none

/-- The status word, in hexadecimal digits. -/
def motdetat (g : TinfoGroup) : Option UInt32 :=
  if g.label = ascii "MOTDETAT" then (strtol 16 g.data).map .ofInt else none

/-- Tomorrow's colour. -/
def demain (g : TinfoGroup) : Option UInt32 :=
  if g.label = ascii "DEMAIN" then
    (sTempoColorList.findIdx? (· = g.data)).map fun color => .ofNat (color + 1)
  else none

/-- Whether the current that the data states is that of one of three phases. -/
def phaseOf (text : List UInt8) (bound : ℕ) : Option Bool :=
  (strtol 10 text).bind fun _ =>
    if text.length > bound then (tinfoPhase text bound).map fun _ => true else some false

/-- Whether a current is that of one of three phases. -/
def threePhase (g : TinfoGroup) : Option Bool :=
  if g.label.take 5 = ascii "IINST" then phaseOf g.data 5
  else if g.label.take 4 = ascii "IMAX" then phaseOf g.data 4
  else none

/-- A warning with a number. -/
def warns (g : TinfoGroup) : Bool := g.label = ascii "ADPS" && (strtol 10 g.data).isSome

end TinfoGroup

/-- What the last of the groups that state something states. -/
def tinfoStated {α : Type} (read : TinfoGroup → Option α) (start : α)
    (groups : List TinfoGroup) : α :=
  (groups.filterMap read).getLastD start

theorem tinfoStated_concat {α : Type} (read : TinfoGroup → Option α) (start : α)
    (groups : List TinfoGroup) (g : TinfoGroup) :
    tinfoStated read start (groups ++ [g]) = (read g).getD (tinfoStated read start groups) := by
  rw [tinfoStated, tinfoStated, List.filterMap_append]
  rcases here : read g with _ | a
  · rw [List.filterMap_cons_none here, List.filterMap_nil, List.append_nil]
    rfl
  · rw [List.filterMap_cons_some here, List.filterMap_nil, List.getLastD_concat]
    rfl

theorem ne_of_take {label other start : List UInt8} {count : ℕ} (starts : label.take count = start)
    (differs : other.take count ≠ start) : label ≠ other := by
  rintro rfl
  exact differs starts

namespace TinfoCarried

theorem readOpTarif_eq (v : TinfoCarried) {g : TinfoGroup} (isOpTarif : g.label = ascii "OPTARIF") :
    v.readOpTarif g.data = { v with optarif := g.optarif.getD v.optarif } := by
  rw [readOpTarif, TinfoGroup.optarif, if_pos isOpTarif]
  split_ifs <;> rfl

theorem readPhase_eq (v : TinfoCarried) (text : List UInt8) (bound : ℕ) :
    v.readPhase text bound =
      { v with threePhase := (TinfoGroup.phaseOf text bound).getD v.threePhase } := by
  rw [readPhase, TinfoGroup.phaseOf]
  rcases strtol 10 text with _ | n
  · rfl
  · by_cases long : text.length > bound
    · simp only [if_pos long, Option.bind_some]
      rcases tinfoPhase text bound with _ | phi <;> rfl
    · simp only [if_neg long]
      rfl

/-- The last group that states a value counts, but for the colour, which is read if the option is
that of a Tempo contract, and for a warning, which is read if the current is that of one phase. -/
theorem read_eq (v : TinfoCarried) (g : TinfoGroup) : v.read g.label g.data =
    { ptec := g.ptec.getD v.ptec
      motdetat := g.motdetat.getD v.motdetat
      optarif := g.optarif.getD v.optarif
      demain := if v.optarif = eTinfoOpTarifTempo then g.demain.getD v.demain else v.demain
      threePhase := g.threePhase.getD v.threePhase
      warned := v.warned || (g.warns && !v.threePhase) } := by
  by_cases opTarif : g.label = ascii "OPTARIF"
  · rw [read, if_pos opTarif, readOpTarif_eq v opTarif]
    simp +decide [TinfoGroup.ptec, TinfoGroup.motdetat, TinfoGroup.demain, TinfoGroup.threePhase,
      TinfoGroup.warns, opTarif]
  by_cases ptec : g.label = ascii "PTEC"
  · rw [read, if_neg opTarif, if_pos ptec]
    rcases found : sPtecList.findIdx? (· = g.data) with _ | index <;>
      simp +decide [TinfoGroup.ptec, TinfoGroup.motdetat, TinfoGroup.optarif, TinfoGroup.demain,
        TinfoGroup.threePhase, TinfoGroup.warns, ptec, found]
  by_cases iinst : g.label.take 5 = ascii "IINST"
  · have motdetat : g.label ≠ ascii "MOTDETAT" := ne_of_take iinst (by decide)
    have demain : g.label ≠ ascii "DEMAIN" := ne_of_take iinst (by decide)
    have adps : g.label ≠ ascii "ADPS" := ne_of_take iinst (by decide)
    rw [read, if_neg opTarif, if_neg ptec, if_pos iinst, readPhase_eq]
    simp [TinfoGroup.ptec, TinfoGroup.motdetat, TinfoGroup.optarif, TinfoGroup.demain,
      TinfoGroup.threePhase, TinfoGroup.warns, opTarif, ptec, iinst, motdetat, demain, adps]
  by_cases imax : g.label.take 4 = ascii "IMAX"
  · have motdetat : g.label ≠ ascii "MOTDETAT" := ne_of_take imax (by decide)
    have demain : g.label ≠ ascii "DEMAIN" := ne_of_take imax (by decide)
    have adps : g.label ≠ ascii "ADPS" := ne_of_take imax (by decide)
    rw [read, if_neg opTarif, if_neg ptec, if_neg iinst, if_pos imax, readPhase_eq]
    simp [TinfoGroup.ptec, TinfoGroup.motdetat, TinfoGroup.optarif, TinfoGroup.demain,
      TinfoGroup.threePhase, TinfoGroup.warns, opTarif, ptec, iinst, imax, motdetat, demain, adps]
  by_cases motdetat : g.label = ascii "MOTDETAT"
  · rw [read, if_neg opTarif, if_neg ptec, if_neg iinst, if_neg imax, if_pos motdetat]
    rcases number : strtol 16 g.data with _ | n <;>
      simp +decide [TinfoGroup.ptec, TinfoGroup.motdetat, TinfoGroup.optarif, TinfoGroup.demain,
        TinfoGroup.threePhase, TinfoGroup.warns, motdetat, number]
  by_cases adps : g.label = ascii "ADPS"
  · rw [read, if_neg opTarif, if_neg ptec, if_neg iinst, if_neg imax, if_neg motdetat, if_pos adps]
    rcases v with ⟨_, _, _, _, _ | _, _⟩ <;> rcases number : strtol 10 g.data with _ | n <;>
      simp +decide [TinfoGroup.ptec, TinfoGroup.motdetat, TinfoGroup.optarif, TinfoGroup.demain,
        TinfoGroup.threePhase, TinfoGroup.warns, adps, number]
  rw [read, if_neg opTarif, if_neg ptec, if_neg iinst, if_neg imax, if_neg motdetat, if_neg adps,
    readColor]
  by_cases demain : g.label = ascii "DEMAIN"
  · rcases found : sTempoColorList.findIdx? (· = g.data) with _ | color <;>
      simp +decide [TinfoGroup.ptec, TinfoGroup.motdetat, TinfoGroup.optarif, TinfoGroup.demain,
        TinfoGroup.threePhase, TinfoGroup.warns, demain, found]
    split_ifs <;> rfl
  · simp [TinfoGroup.ptec, TinfoGroup.motdetat, TinfoGroup.optarif, TinfoGroup.demain,
      TinfoGroup.threePhase, TinfoGroup.warns, opTarif, ptec, iinst, imax, motdetat, adps, demain]

end TinfoCarried

/-- The last of the colours that are stated comes where the option is that of a Tempo contract. -/
def TinfoColorInOrder (groups : List TinfoGroup) : Prop :=
  ∀ before g after, groups = before ++ g :: after → g.demain ≠ none →
    (∀ later ∈ after, later.demain = none) →
    tinfoStated TinfoGroup.optarif 0 before = eTinfoOpTarifTempo

/-- The option is stated first, and then only once. -/
theorem colorInOrder_append {before after : List TinfoGroup}
    (noColor : ∀ g ∈ before, g.demain = none) (noOption : ∀ g ∈ after, g.optarif = none)
    (isTempo : tinfoStated TinfoGroup.optarif 0 before = eTinfoOpTarifTempo) :
    TinfoColorInOrder (before ++ after) := by
  intro front g back split color _
  rcases List.append_eq_append_iff.mp split with ⟨more, front_eq, after_eq⟩ | ⟨more, rfl, rest⟩
  · have silent : more.filterMap TinfoGroup.optarif = [] := by
      rw [List.filterMap_eq_nil_iff]
      exact fun h h_mem => noOption h (by simp [after_eq, h_mem])
    rw [front_eq, tinfoStated, List.filterMap_append, silent, List.append_nil]
    exact isTempo
  · cases more with
    | nil =>
        rw [List.append_nil] at isTempo
        exact isTempo
    | cons h more =>
        rw [List.cons_append, List.cons.injEq] at rest
        exact absurd (noColor g (by simp [rest.1])) color

/-- A warning with a number comes where the current is not that of three phases. -/
def TinfoWarningInOrder (groups : List TinfoGroup) : Prop :=
  ∃ before g, before ++ [g] <+: groups ∧ g.warns = true ∧
    tinfoStated TinfoGroup.threePhase false before = false

/-- What is read of the groups one after the other is what they state. -/
structure TinfoCarried.Tells (v : TinfoCarried) (groups : List TinfoGroup) : Prop where
  ptec : v.ptec = tinfoStated TinfoGroup.ptec 0 groups
  motdetat : v.motdetat = tinfoStated TinfoGroup.motdetat 0 groups
  optarif : v.optarif = tinfoStated TinfoGroup.optarif 0 groups
  threePhase : v.threePhase = tinfoStated TinfoGroup.threePhase false groups
  demain : TinfoColorInOrder groups → v.demain = tinfoStated TinfoGroup.demain 0 groups
  warned : v.warned = true ↔ TinfoWarningInOrder groups

theorem TinfoCarried.Tells.concat {v : TinfoCarried} {groups : List TinfoGroup}
    (tells : v.Tells groups) (g : TinfoGroup) : (v.read g.label g.data).Tells (groups ++ [g]) := by
  rw [TinfoCarried.read_eq]
  constructor
  · rw [tinfoStated_concat, ← tells.ptec]
  · rw [tinfoStated_concat, ← tells.motdetat]
  · rw [tinfoStated_concat, ← tells.optarif]
  · rw [tinfoStated_concat, ← tells.threePhase]
  · intro inOrder
    rw [tinfoStated_concat]
    rcases color : g.demain with _ | c
    · have before : TinfoColorInOrder groups := by
        intro before h after split some_ last
        apply inOrder before h (after ++ [g]) (by simp [split]) some_
        intro later later_mem
        rcases List.mem_append.mp later_mem with behind | isG
        · exact last later behind
        · rw [List.mem_singleton.mp isG, color]
      rw [Option.getD_none, Option.getD_none, ite_self, tells.demain before]
    · have isTempo : v.optarif = eTinfoOpTarifTempo := by
        rw [tells.optarif]
        exact inOrder groups g [] rfl (by simp [color]) (by simp)
      rw [if_pos isTempo]
      rfl
  · rw [Bool.or_eq_true, Bool.and_eq_true, Bool.not_eq_true', tells.warned, tells.threePhase]
    constructor
    · rintro (⟨before, h, within, warns⟩ | warns)
      · exact ⟨before, h, within.trans (List.prefix_append _ _), warns⟩
      · exact ⟨groups, g, List.prefix_rfl, warns⟩
    · rintro ⟨before, h, within, warns⟩
      rcases List.prefix_concat_iff.mp within with whole | within
      · rcases List.append_inj' whole rfl with ⟨rfl, same⟩
        cases same
        exact .inr warns
      · exact .inl ⟨before, h, within, warns⟩

theorem tells_foldl (groups : List TinfoGroup) :
    (groups.foldl (fun v g => v.read g.label g.data) TinfoCarried.initial).Tells groups := by
  induction groups using List.reverseRecOn with
  | nil =>
      refine ⟨rfl, rfl, rfl, rfl, fun _ => rfl, ⟨fun impossible => ?_, ?_⟩⟩
      · cases impossible
      · rintro ⟨before, g, within, -⟩
        exact absurd (List.prefix_nil.mp within) (by simp)
  | append_singleton groups g ih =>
      rw [List.foldl_concat]
      exact ih.concat g

end Sysio.Tinfo
