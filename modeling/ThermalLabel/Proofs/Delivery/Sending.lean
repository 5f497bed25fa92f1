/-
  Jobs at their destination.

  The bytes of a job are its characters (`toText_of_encode?`), and a job that Latin-1 can hold gets
  to a file, to a device or to a connection whole (`toFile_job`, `overNetwork_job`). A session whose
  jobs Latin-1 can hold never ends in an encoding fault (`deliver_ne_unencodable`), and an open
  connection is closed once, behind all that is sent (`closed_deliver`).
-/
import ThermalLabel.Delivery.Session
import ThermalLabel.Proofs.Fallible

namespace ThermalLabel

/-! ## Bytes -/

namespace Latin1

theorem ofNat_byte {c : Char} (h : isEncodable c) : Char.ofNat (UInt8.ofNat c.toNat).toNat = c := by
  have hsmall : c.toNat < 256 := of_decide_eq_true h
  rw [UInt8.toNat_ofNat', Nat.mod_eq_of_lt hsmall, Char.ofNat_toNat]

theorem all_isEncodable_iff {t : Text} : t.all isEncodable ↔ ∀ c ∈ t, c.toNat ≤ 0xFF := by
  rw [List.all_eq_true]
  exact forall₂_congr fun c _ => decide_eq_true_iff.trans Nat.lt_succ_iff

theorem exists_of_not_encodable {t : Text} :
    ¬ t.all isEncodable ↔ ∃ c ∈ t, 0xFF < c.toNat := by
  rw [all_isEncodable_iff]
  simp only [Classical.not_forall, Nat.not_le, exists_prop]

theorem encode?_eq_some_iff {t : Text} {bytes : Bytes} :
    encode? t = some bytes ↔
      t.all isEncodable ∧ t.map (fun c => UInt8.ofNat c.toNat) = bytes := by
  unfold encode?
  by_cases h : t.all isEncodable = true
  · rw [if_pos h, Option.some.injEq]
    exact ⟨fun hbytes => ⟨h, hbytes⟩, And.right⟩
  · rw [if_neg h]
    constructor
    · intro hnone
      cases hnone
    · intro hall
      exact absurd hall.1 h

/-- The bytes of a text have its characters. -/
theorem toText_of_encode? {t : Text} {bytes : Bytes} (h : encode? t = some bytes) :
    Bytes.toText bytes = t := by
  obtain ⟨hall, rfl⟩ := encode?_eq_some_iff.mp h
  have hchars : ∀ c ∈ t, Char.ofNat (UInt8.ofNat c.toNat).toNat = c := fun c hc =>
    ofNat_byte (List.all_eq_true.mp hall c hc)
  unfold Bytes.toText
  rw [List.map_map]
  conv => rhs; rw [← List.map_id t]
  exact List.map_congr_left hchars

end Latin1

/-! ## Files -/

namespace Directory

variable {files : Directory} {name : Text} {content : Bytes}

/-- A file that is put is there with its content, and no other file has changed. -/
@[grind =]
theorem get?_put (files : Directory) (name : Text) (content : Bytes) (other : Text) :
    (files.put name content).get? other =
      if other = name then some content else files.get? other := by
  unfold get?
  induction files with
  | nil => grind [put]
  | cons file rest ih => grind [put]

@[simp]
theorem get?_put_self (files : Directory) (name : Text) (content : Bytes) :
    (files.put name content).get? name = some content := by
  grind

@[simp]
theorem get?_put_of_ne {other : Text} (h : other ≠ name) :
    (files.put name content).get? other = files.get? other := by
  grind

end Directory

namespace FileSystem

variable {system : FileSystem} {files : Directory} {path : Text}

/-- Whether a path to be written leads anywhere, and where, is settled by the system alone. -/
theorem destination_eq_ok_iff {place : Destination} :
    system.destination files path = .ok place ↔ system.place? path = some place := by
  unfold destination
  cases system.place? path with
  | none => simp
  | some found => simp

theorem find_of_source {name : Text} {content : Bytes}
    (h : system.source files path = .ok (.file name)) (hcontent : files.get? name = some content) :
    system.find files path = .ok content := by
  unfold find
  rw [h]
  dsimp only
  rw [hcontent]
  rfl

end FileSystem

/-! ## Sessions -/

namespace Session

variable {system : FileSystem} {failure : Option NetworkFailure} {files : Directory} {job : Text}
  {jobs : List Text} {bytes : Bytes}

@[simp]
theorem deliver_file (path mode : Text) : deliver system failure files jobs (.file path mode) =
    toFile system files path mode jobs := rfl

@[simp]
theorem fault_toDestination_file (mode : FileMode) (name : Text) :
    (toDestination files mode jobs (.file name)).fault = encodingFault jobs := rfl

@[simp]
theorem fault_toDestination_device (mode : FileMode) (name : Text) :
    (toDestination files mode jobs (.device name)).fault = encodingFault jobs := rfl

@[simp]
theorem fault_toDestination_full (mode : FileMode) :
    (toDestination files mode jobs .full).fault = fullFault jobs := rfl

/-- A session with a file that can be opened is one with what the path leads to. -/
theorem toFile_of_place {path letter : Text} {mode : FileMode} {place : Destination}
    (hmode : FileMode.ofText letter = .ok mode) (hplace : system.place? path = some place) :
    toFile system files path letter jobs = toDestination files mode jobs place := by
  unfold toFile
  rw [hmode, FileSystem.destination_eq_ok_iff.mpr hplace]

theorem jobBytes_singleton (h : Latin1.encode? job = some bytes) : jobBytes [job] = bytes := by
  unfold jobBytes
  rw [List.flatMap_singleton, h]
  rfl

theorem sendable_singleton (h : Latin1.encode? job = some bytes) : sendable [job] = [job] := by
  have hjob := (Latin1.encode?_eq_some_iff.mp h).1
  unfold sendable
  rw [List.takeWhile_cons, hjob]
  rfl

theorem encodingFault_eq_none_iff :
    encodingFault jobs = none ↔ ∀ job ∈ jobs, job.all Latin1.isEncodable := by
  unfold encodingFault
  rw [← List.all_eq_true]
  split
  · next h => simp [h]
  · next h => simp [h]

theorem ofText_ne_unencodable {mode : Text} {fault : DeliveryFault}
    (h : FileMode.ofText mode = .error fault) : fault ≠ .unencodable := by
  unfold FileMode.ofText at h
  split at h
  · cases h
  · cases h
  · cases h
    exact DeliveryFault.noConfusion
  · cases h
    exact DeliveryFault.noConfusion
  · cases h
    exact DeliveryFault.noConfusion

/-! ### Connections -/

/-- While an open connection is used there are only sendings. -/
theorem sends_of_mem_sendAll {event : NetworkEvent} (h : event ∈ (sendAll failure jobs).1) :
    ∃ bytes, event = .send bytes := by
  induction jobs with
  | nil => cases h
  | cons job rest ih =>
    unfold sendAll at h
    split at h
    · cases h
    · cases h
    · rcases List.mem_cons.mp h with rfl | h
      · exact ⟨_, rfl⟩
      · exact ih h

/-- An open connection is closed once, behind everything else. -/
theorem closed_overNetwork (hopen : connectFailure? failure = none) (host : Text)
    (service : Option Int) (timeout : Option Number) (jobs : List Text) :
    ∃ events, (overNetwork failure host service timeout jobs).1 = events ++ [.close] ∧
      .close ∉ events := by
  unfold overNetwork
  rw [hopen]
  refine ⟨.connect host service timeout :: (sendAll failure jobs).1, rfl, fun h => ?_⟩
  rcases List.mem_cons.mp h with h | h
  · cases h
  · obtain ⟨_, h⟩ := sends_of_mem_sendAll h
    cases h

theorem sendAll_ne_unencodable (h : ∀ job ∈ jobs, job.all Latin1.isEncodable) :
    (sendAll failure jobs).2 ≠ some .unencodable := by
  induction jobs with
  | nil => exact (Option.some_ne_none _).symm
  | cons job rest ih =>
    have hjob := Latin1.encode?_eq_some_iff.mpr ⟨h job List.mem_cons_self, rfl⟩
    unfold sendAll
    rw [hjob]
    cases failure with
    | some failure =>
      intro hfault
      cases hfault
    | none => exact ih fun other hother => h other (List.mem_cons_of_mem _ hother)

theorem overNetwork_ne_unencodable (h : ∀ job ∈ jobs, job.all Latin1.isEncodable) (host : Text)
    (service : Option Int) (timeout : Option Number) :
    (overNetwork failure host service timeout jobs).2 ≠ some .unencodable := by
  unfold overNetwork
  split
  · intro hfault
    cases hfault
  · exact sendAll_ne_unencodable h

/-- Over a connection that does not fail a job is sent at once. -/
theorem overNetwork_job (hbytes : Latin1.encode? job = some bytes) {host : Text}
    {service : Option Int} {timeout : Option Number}
    (h : (overNetwork failure host service timeout [job]).2 = none) :
    (overNetwork failure host service timeout [job]).1 =
      [.connect host service timeout, .send bytes, .close] := by
  unfold overNetwork at h ⊢
  cases hfailure : connectFailure? failure with
  | some found =>
    rw [hfailure] at h
    cases h
  | none =>
    rw [hfailure] at h
    cases failure with
    | some found =>
      unfold sendAll at h
      rw [hbytes] at h
      cases h
    | none =>
      unfold sendAll
      rw [hbytes]
      rfl

/-! ### Files -/

theorem toDestination_ne_unencodable (h : ∀ job ∈ jobs, job.all Latin1.isEncodable)
    (mode : FileMode) (destination : Destination) :
    (toDestination files mode jobs destination).fault ≠ some .unencodable := by
  have hnone := encodingFault_eq_none_iff.mpr h
  cases destination with
  | file name | device name => simp [hnone]
  | full =>
    rw [fault_toDestination_full, fullFault]
    split
    · simp [hnone]
    · simp

theorem openingFault_ne_unencodable {mode : DeliveryFault} (h : mode ≠ .unencodable)
    (path : Option PathFault) : openingFault mode path ≠ .unencodable := by
  unfold openingFault
  split
  · exact DeliveryFault.noConfusion
  · exact h

theorem toFile_ne_unencodable (h : ∀ job ∈ jobs, job.all Latin1.isEncodable) (path mode : Text) :
    (toFile system files path mode jobs).fault ≠ some .unencodable := by
  unfold toFile
  split
  · exact toDestination_ne_unencodable h _ _
  · intro hfault
    cases hfault
  · next hmode _ =>
    intro hfault
    exact openingFault_ne_unencodable (ofText_ne_unencodable hmode) _ (Option.some.inj hfault)
  · next hmode _ =>
    intro hfault
    exact openingFault_ne_unencodable (ofText_ne_unencodable hmode) _ (Option.some.inj hfault)

/-- The job is where a path leads, and nothing else has changed: it is all that is in the file
    there, or all that is written to the device there. -/
inductive StoredAt (system : FileSystem) (files : Directory) (path : Text) (bytes : Bytes)
    (after : Directory) (deposit : Option Deposit) : Prop
  | file {name : Text} (place : system.place? path = some (.file name))
    (content : after.get? name = some bytes)
    (read : ∀ other, system.source after other = .ok (.file name) →
      system.find after other = .ok bytes)
    (others : ∀ other, other ≠ name → after.get? other = files.get? other)
    (alone : deposit = none)
  | device {name : Text} (place : system.place? path = some (.device name))
    (unchanged : after = files) (written : deposit = some ⟨name, .replace, bytes⟩)

theorem storedAt_of_destination (hbytes : Latin1.encode? job = some bytes) (hne : bytes ≠ [])
    {path : Text} {destination : Destination} (hplace : system.place? path = some destination)
    (h : (toDestination files .replace [job] destination).fault = none) :
    StoredAt system files path bytes (toDestination files .replace [job] destination).files
      (toDestination files .replace [job] destination).deposit := by
  have hjob : jobBytes (sendable [job]) = bytes := by
    rw [sendable_singleton hbytes, jobBytes_singleton hbytes]
  cases destination with
  | file name =>
    have hcontent : (files.put name (jobBytes (sendable [job]))).get? name = some bytes := by
      rw [hjob, Directory.get?_put_self]
    refine .file hplace hcontent (fun other hother => ?_) (fun other hother => ?_) rfl
    · exact FileSystem.find_of_source hother hcontent
    · exact Directory.get?_put_of_ne hother
  | device name =>
    refine .device hplace rfl ?_
    show some (Deposit.mk name .replace (jobBytes (sendable [job]))) = _
    rw [hjob]
  | full =>
    have hfull : fullFault [job] = some .noSpace := by
      unfold fullFault
      rw [hjob, if_neg hne]
    have hnone : fullFault [job] = none := h
    rw [hfull] at hnone
    cases hnone

/-- A file that takes a job has it whole, and nothing else. -/
theorem toFile_job (hbytes : Latin1.encode? job = some bytes) (hne : bytes ≠ []) {path : Text}
    (h : (toFile system files path FileMode.default [job]).fault = none) :
    StoredAt system files path bytes (toFile system files path FileMode.default [job]).files
      (toFile system files path FileMode.default [job]).deposit := by
  have hmode : FileMode.ofText FileMode.default = .ok .replace := rfl
  unfold toFile at h ⊢
  rw [hmode] at h ⊢
  cases hdestination : system.destination files path with
  | error reason =>
    rw [hdestination] at h
    cases h
  | ok destination =>
    rw [hdestination] at h
    have hplace := FileSystem.destination_eq_ok_iff.mp hdestination
    exact storedAt_of_destination hbytes hne hplace h

theorem quiet_toFile (system : FileSystem) (files : Directory) (path mode : Text)
    (jobs : List Text) :
    (toFile system files path mode jobs).network = [] ∧
      (toFile system files path mode jobs).shown = [] := by
  unfold toFile
  split
  · next destination _ _ => cases destination <;> exact ⟨rfl, rfl⟩
  · exact ⟨rfl, rfl⟩
  · exact ⟨rfl, rfl⟩
  · exact ⟨rfl, rfl⟩

/-! ### All printers -/

/-- Jobs that Latin-1 can hold do not fail for their characters. -/
theorem deliver_ne_unencodable (h : ∀ job ∈ jobs, job.all Latin1.isEncodable) (printer : Printer) :
    (deliver system failure files jobs printer).fault ≠ some .unencodable := by
  cases printer with
  | console => exact (Option.some_ne_none _).symm
  | file path mode => exact toFile_ne_unencodable h path mode
  | tcp host service timeout => exact overNetwork_ne_unencodable h host service timeout

/-- Whatever a session does on the network, it closes what it opens. -/
theorem closed_deliver (hopen : connectFailure? failure = none) {printer : Printer}
    (h : (deliver system failure files jobs printer).network ≠ []) :
    ∃ events, (deliver system failure files jobs printer).network = events ++ [.close] ∧
      .close ∉ events := by
  cases printer with
  | console => exact absurd rfl h
  | file path mode => exact absurd (quiet_toFile system files path mode jobs).1 h
  | tcp host service timeout => exact closed_overNetwork hopen host service timeout jobs

end Session

end ThermalLabel
