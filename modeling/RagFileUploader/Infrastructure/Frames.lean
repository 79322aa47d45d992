import RagFileUploader.Infrastructure.World

/-!
# What a command changes

One equation for each part of the world that several results follow through runs: the commands
that move it, with the value they give it, and all others leave it alone.
-/

namespace RagFileUploader

open Effects Stores

variable {env : Environment} {σ : World}

/-- The session hashes after a command. -/
def Command.sessionsAfter (σ : World) : Command → Keyspace SessionKey SessionHash
  | .createSession key data ttlSeconds _ _ => σ.sessions.put key data (σ.deadline ttlSeconds)
  | .hsetSession key data => σ.sessions.overwrite σ.clock key data
  | .deleteSession key => σ.sessions.erase key
  | _ => σ.sessions

/-- The key of the session that the command creates. -/
def Command.createdKey? : Command → Option SessionKey
  | .createSession key _ _ _ _ => some key
  | _ => none

/-- The key of the hash that the command overwrites. -/
def Command.overwrittenKey? : Command → Option SessionKey
  | .hsetSession key _ => some key
  | _ => none

/-- The commands of S3 change nothing outside it. -/
theorem Command.act_s3 {c : Command} (h : c.area = .s3) : ∃ objects uploads nextUpload,
    (c.act env σ).2 = { σ with objects, uploads, nextUpload } := by
  cases c with
  | headObject key =>
      refine ⟨σ.objects, σ.uploads, σ.nextUpload, ?_⟩
      simp only [act]
      split <;> rfl
  | createMultipartUpload key => exact ⟨_, _, _, rfl⟩
  | uploadPart key uploadId partNumber body =>
      simp only [act]
      split
      · exact ⟨_, _, _, rfl⟩
      · exact ⟨σ.objects, σ.uploads, σ.nextUpload, rfl⟩
  | completeMultipartUpload key uploadId parts =>
      simp only [act]
      split
      · exact ⟨σ.objects, σ.uploads, σ.nextUpload, rfl⟩
      · split
        · split
          · exact ⟨_, _, _, rfl⟩
          · exact ⟨σ.objects, σ.uploads, σ.nextUpload, rfl⟩
        · exact ⟨σ.objects, σ.uploads, σ.nextUpload, rfl⟩
  | abortMultipartUpload key uploadId =>
      simp only [act]
      split
      · exact ⟨_, _, _, rfl⟩
      · exact ⟨σ.objects, σ.uploads, σ.nextUpload, rfl⟩
  | deleteObject key => exact ⟨_, _, _, rfl⟩
  | _ => cases h

theorem Command.sessions_act (c : Command) : (c.act env σ).2.sessions = c.sessionsAfter σ := by
  by_cases hc : c.area = .s3
  · obtain ⟨objects, uploads, nextUpload, heq⟩ := Command.act_s3 hc
    rw [heq]
    cases c <;> first | rfl | cases hc
  · cases c <;> first | rfl | exact absurd rfl hc

theorem Command.clock_act (c : Command) : (c.act env σ).2.clock = σ.clock := by
  by_cases hc : c.area = .s3
  · obtain ⟨objects, uploads, nextUpload, heq⟩ := Command.act_s3 hc
    rw [heq]
  · cases c <;> first | rfl | exact absurd rfl hc

theorem Command.sessions_act_of_area {c : Command} (h : c.area ≠ .sessions) :
    (c.act env σ).2.sessions = σ.sessions := by
  rw [c.sessions_act]
  cases c <;> first | rfl | exact absurd rfl h

theorem Command.counters_act_of_area {c : Command} (h : c.area ≠ .counters) :
    (c.act env σ).2.counters = σ.counters := by
  by_cases hc : c.area = .s3
  · obtain ⟨objects, uploads, nextUpload, heq⟩ := Command.act_s3 hc
    rw [heq]
  · cases c <;> first | rfl | exact absurd rfl h | exact absurd rfl hc

end RagFileUploader
