import NabtoDevice.Lib.CString
import NabtoDevice.Lib.Machine

/-! The name and the version of the application: `nabto_device_set_app_name` and
`nabto_device_set_app_version` of `src/api/nabto_device.c` write the arrays from which
`encode_cbor_request` of `src/core/nc_attacher_attach_start.c` reads them. -/

namespace NabtoDevice

open CString (Buffer)

/-- The string at a pointer to the bytes `s`; its length is what `strlen` returns. -/
def cStringAt (s : List UInt8) : List UInt8 := s.takeWhile (· != 0)

/-- The two arrays follow each other in the device. -/
structure AppInfo where
  appName : Buffer 33
  appVersion : Buffer 33
  deriving DecidableEq

inductive SetAppInfoError
  | ok
  | stringTooLong
  deriving DecidableEq, Repr

/-- What both functions do with their array. The terminator is not copied. -/
def setAppString (array : Buffer 33) (s : List UInt8) : SetAppInfoError × Buffer 33 :=
  if (cStringAt s).length > 32 then (.stringTooLong, array) else (.ok, array.write (cStringAt s))

def nabtoDeviceSetAppName (info : AppInfo) (name : List UInt8) : SetAppInfoError × AppInfo :=
  let (ec, appName) := setAppString info.appName name
  (ec, { info with appName })

def nabtoDeviceSetAppVersion (info : AppInfo) (version : List UInt8) : SetAppInfoError × AppInfo :=
  let (ec, appVersion) := setAppString info.appVersion version
  (ec, { info with appVersion })

/-- The keys and texts of the request, where `behind` follows the arrays in memory. -/
def encodeCborRequest (ncVersion : List UInt8) (info : AppInfo)
    (productId deviceId behind : List UInt8) : List (String × List UInt8) :=
  [("NabtoVersion", cStringAt ncVersion),
   ("AppName", info.appName.read (info.appVersion.bytes ++ behind)),
   ("AppVersion", info.appVersion.read behind),
   ("ProductId", cStringAt productId),
   ("DeviceId", cStringAt deviceId)]

inductive AppInfoCall
  | setAppName (name : List UInt8)
  | setAppVersion (version : List UInt8)
  deriving DecidableEq, Repr

/-- The device with the last strings that were accepted, empty ones before the first. -/
structure AppInfoState where
  info : AppInfo
  lastName : List UInt8
  lastVersion : List UInt8
  deriving DecidableEq

def AppInfoState.call (s : AppInfoState) : AppInfoCall → AppInfoState
  | .setAppName name =>
    let (ec, info) := nabtoDeviceSetAppName s.info name
    { s with info, lastName := if ec = .ok then cStringAt name else s.lastName }
  | .setAppVersion version =>
    let (ec, info) := nabtoDeviceSetAppVersion s.info version
    { s with info, lastVersion := if ec = .ok then cStringAt version else s.lastVersion }

/-- The device is allocated with zeros. -/
def appInfo : Machine AppInfoState AppInfoCall where
  init := ⟨⟨CString.zero 33, CString.zero 33⟩, [], []⟩
  step s call := some (s.call call)

end NabtoDevice
