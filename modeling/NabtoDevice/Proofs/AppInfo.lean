import NabtoDevice.Spec.AppInfo
import Mathlib.Data.List.TakeWhile

/-! The attach start request carries the strings that were set last, unless one was set that is
shorter than the one before: the end of the old string stays behind it. -/

namespace NabtoDevice

namespace AppInfoState

def CarriesLast (s : AppInfoState) : Prop :=
  ∀ ncVersion productId deviceId behind,
    encodeCborRequest ncVersion s.info productId deviceId behind =
      [("NabtoVersion", cStringAt ncVersion), ("AppName", s.lastName),
       ("AppVersion", s.lastVersion), ("ProductId", cStringAt productId),
         ("DeviceId", cStringAt deviceId)]

/-- The call sets a string that is shorter than the one it replaces. -/
def shortens (s : AppInfoState) : AppInfoCall → Bool
  | .setAppName name => (cStringAt name).length < (s.info.appName.read []).length
  | .setAppVersion version => (cStringAt version).length < (s.info.appVersion.read []).length

structure Padded (s : AppInfoState) : Prop where
  name : s.info.appName.Holds s.lastName
  version : s.info.appVersion.Holds s.lastVersion

variable {s : AppInfoState}

theorem carriesLast_iff :
    s.CarriesLast ↔ ∀ behind, s.info.appName.read (s.info.appVersion.bytes ++ behind) = s.lastName ∧
      s.info.appVersion.read behind = s.lastVersion := by
  simp only [CarriesLast, encodeCborRequest, List.cons.injEq, Prod.mk.injEq, true_and, and_true]
  exact ⟨fun h behind => h [] [] [] behind, fun h _ _ _ behind => h behind⟩

theorem Padded.carriesLast (h : s.Padded) : s.CarriesLast :=
  carriesLast_iff.mpr fun _ => ⟨h.name.read _, h.version.read _⟩

end AppInfoState

theorem zero_notMem_cStringAt (s : List UInt8) : 0 ∉ cStringAt s := by
  intro h
  have hne := List.mem_takeWhile_imp h
  exact absurd hne (by decide)

theorem setAppString_of_long (array : CString.Buffer 33) {s : List UInt8}
    (h : 32 < (cStringAt s).length) :
    setAppString array s = (.stringTooLong, array) := if_pos h

def lastAfter (array : CString.Buffer 33) (old s : List UInt8) : List UInt8 :=
  if (setAppString array s).1 = .ok then cStringAt s else old

section

variable {array : CString.Buffer 33} {old s : List UInt8}

theorem setAppString_holds (hold : array.Holds old) (hle : old.length ≤ (cStringAt s).length) :
    (setAppString array s).2.Holds (lastAfter array old s) := by
  unfold lastAfter setAppString
  split_ifs with hlong
  · exact absurd ‹_› (by decide)
  · exact hold
  · exact hold.write (zero_notMem_cStringAt s) (by omega) hle
  · exact absurd rfl ‹_›

theorem setAppString_read_ne (hold : array.Holds old) (hlt : (cStringAt s).length < old.length)
    (behind : List UInt8) : (setAppString array s).2.read behind ≠ lastAfter array old s := by
  have hroom := hold.room
  have hset : setAppString array s = (.ok, array.write (cStringAt s)) := if_neg (by omega)
  rw [lastAfter, hset, if_pos rfl]
  exact hold.read_write_ne (zero_notMem_cStringAt s) hlt behind

end

/-- The request carries the new string exactly if it is not shorter than the old one, and then
zeros follow it again. -/
theorem appInfo_step_judged {s : AppInfoState} (hs : s.Padded) (call : AppInfoCall) :
    Machine.Judged AppInfoState.Padded AppInfoState.CarriesLast (s.call call)
      (s.shortens call) := by
  cases call with
  | setAppName name =>
    have hread : s.info.appName.read [] = s.lastName := hs.name.read []
    rw [AppInfoState.shortens, hread]
    by_cases hlt : (cStringAt name).length < s.lastName.length
    · rw [decide_eq_true hlt]
      exact .bad fun h =>
        setAppString_read_ne hs.name hlt _ (AppInfoState.carriesLast_iff.mp h []).1
    · rw [decide_eq_false hlt]
      have hpadded : (s.call (.setAppName name)).Padded :=
        ⟨setAppString_holds hs.name (Nat.not_lt.mp hlt), hs.version⟩
      exact .fine hpadded.carriesLast hpadded
  | setAppVersion version =>
    have hread : s.info.appVersion.read [] = s.lastVersion := hs.version.read []
    rw [AppInfoState.shortens, hread]
    by_cases hlt : (cStringAt version).length < s.lastVersion.length
    · rw [decide_eq_true hlt]
      exact .bad fun h =>
        setAppString_read_ne hs.version hlt _ (AppInfoState.carriesLast_iff.mp h []).2
    · rw [decide_eq_false hlt]
      have hpadded : (s.call (.setAppVersion version)).Padded :=
        ⟨hs.name, setAppString_holds hs.version (Nat.not_lt.mp hlt)⟩
      exact .fine hpadded.carriesLast hpadded

theorem appInfo_run (calls : List AppInfoCall) : ∃ s, appInfo.Run calls s := by
  induction calls using List.reverseRecOn with
  | nil => exact ⟨_, .nil⟩
  | append_singleton calls call ih =>
    obtain ⟨s, hs⟩ := ih
    exact ⟨_, hs.snoc rfl⟩

/-- Strings of more than 32 bytes are rejected and change nothing. After any calls the requests
carry the last accepted strings exactly if no call has set a shorter string than the one before. -/
theorem appInfo_carriesLast_iff (calls : List AppInfoCall) :
    (∀ info s, 32 < (cStringAt s).length →
      nabtoDeviceSetAppName info s = (.stringTooLong, info) ∧
        nabtoDeviceSetAppVersion info s = (.stringTooLong, info)) ∧
      ((∀ s, appInfo.Visits calls s → s.CarriesLast) ↔
        ∀ s call, appInfo.Takes calls s call → s.shortens call = false) := by
  refine ⟨fun info s hlong => ?_, ?_⟩
  · rw [nabtoDeviceSetAppName, nabtoDeviceSetAppVersion, setAppString_of_long _ hlong,
      setAppString_of_long _ hlong]
    exact ⟨rfl, rfl⟩
  · obtain ⟨s, hrun⟩ := appInfo_run calls
    have hinit : AppInfoState.Padded appInfo.init :=
      ⟨CString.holds_zero (by decide), CString.holds_zero (by decide)⟩
    refine hrun.good_iff_takes AppInfoState.Padded AppInfoState.CarriesLast
      (fun s call => s.shortens call = false)
      hinit hinit.carriesLast fun s call s' hs _ hstep => ?_
    cases hstep
    exact appInfo_step_judged hs call

/-- After "abcdef" and "xy" the request says "xycdef". -/
theorem appInfo_keeps_end :
    ∃ s, appInfo.Run [.setAppName [97, 98, 99, 100, 101, 102], .setAppName [120, 121]] s ∧
      s.lastName = [120, 121] ∧
      encodeCborRequest [] s.info [] [] [] =
        [("NabtoVersion", []), ("AppName", [120, 121, 99, 100, 101, 102]),
        ("AppVersion", []), ("ProductId", []), ("DeviceId", [])] ∧
      ¬ s.CarriesLast := by
  refine ⟨_, Machine.run_of_exec rfl, rfl, by decide, fun hcarries => ?_⟩
  have hname := (AppInfoState.carriesLast_iff.mp hcarries []).1
  exact absurd hname (by decide)

end NabtoDevice
