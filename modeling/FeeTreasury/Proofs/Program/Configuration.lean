import FeeTreasury.Proofs.Program.Chain
import FeeTreasury.Proofs.Program.Touches

/-!
# The configuration in force

The set-up and an update of the settings accept the settings that they write, and the set-up finds
the bump of the owner of the vaults, which nothing changes
(`FeeTreasury.Program.accepted_of_perform`). So whatever is called, the settings in force were
accepted and the bump is the right one (`FeeTreasury.Accounts.Evolves.accepted`).
-/

namespace FeeTreasury

open Outcome

/-- The delay of accepted settings lies ahead. -/
theorem Settings.delay_nonneg {settings : Settings} {u : Unit}
    (valid : settings.validate = .ok u) : 0 ≤ settings.liquidationDelay := by
  simp only [validate, bind_eq_ok, require_eq_ok, decide_eq_true_eq] at valid
  obtain ⟨_, _, _, _, _, _, _, ⟨ahead, _⟩, _⟩ := valid
  exact ahead

/-- A configuration with settings that were accepted, and with the bump of the owner of the
vaults. -/
structure Config.Accepted (program : Key) (config : Config) : Prop where
  valid : config.settings.validate = .ok ()
  vaults : ∃ key, Place.vaultAuthority.address? program = some ⟨key, config.vaultAuthorityBump⟩

/-- Whatever is asked, a configuration is only written with accepted settings and the bump that was
found. -/
theorem Program.accepted_of_perform {env : Env} {run after : Run} {u : Unit} {keys : List Key}
    {instruction : Instruction} (sound : run.accounts.Sound env.program)
    (all : run.accounts.All env.program (Config.Accepted env.program))
    (performed : perform env keys instruction run = .ok u after) :
    after.accounts.All env.program (Config.Accepted env.program) := by
  by_cases others : Recorded.kind Config ∉ instruction.touches
  · exact all.congr (held_of_perform others sound performed)
  · cases instruction
    case setUp =>
      obtain ⟨_, _, ran⟩ := Exec.withRoster_eq_ok.mp performed
      obtain ⟨_, _, _, _, _, _, _, ⟨_, valid, vaults⟩, _, writes⟩ := setUp_writes sound ran
      exact all.update (writes.held_one rfl) ⟨valid, _, vaults⟩
    case updateSettings =>
      obtain ⟨_, _, ran⟩ := Exec.withRoster_eq_ok.mp performed
      obtain ⟨_, _, known, _, valid, writes⟩ := updateSettings_writes sound ran
      exact all.update (writes.held_one rfl) ⟨valid, (all _ _ known).vaults⟩
    case updateRoles =>
      obtain ⟨_, _, ran⟩ := Exec.withRoster_eq_ok.mp performed
      obtain ⟨_, _, known, _, writes⟩ := updateRoles_writes sound ran
      exact all.update (writes.held_one rfl) ⟨(all _ _ known).valid, (all _ _ known).vaults⟩
    all_goals
      refine absurd ?_ others
      show Kind.config ∉ _
      simp [Instruction.touches]

/-- Whatever is called, the configuration in force was accepted. -/
theorem Accounts.Evolves.accepted {program : Key} {start accounts : Accounts}
    {history : List Called} (fresh : start.Uninitialised program)
    (evolves : start.Evolves program history accounts) :
    accounts.All program (Config.Accepted program) := by
  -- By induction on the life of the program; the accounts that a call meets are sound.
  induction evolves with
  | start =>
    intro key config found
    exact nomatch (held_of_vacant (fresh key)).symm.trans found
  | @call _ accounts evolves call now own ih =>
    subst own
    rcases Called.failed_or_done ⟨call, accounts, now⟩ with
      ⟨_, same⟩ | ⟨_, begun, after, _, performed, begins, _, ends, _⟩
    · rw [same]
      exact ih
    · rw [ends]
      exact Program.accepted_of_perform (begins ▸ evolves.sound fresh.sound) (begins ▸ ih)
        performed
  | others _ spares ih => exact ih.congr (held_of_spares spares)

end FeeTreasury
