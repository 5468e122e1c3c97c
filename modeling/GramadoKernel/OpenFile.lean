import GramadoKernel.Descriptors
import GramadoKernel.Lookups
import GramadoKernel.PathLoading
import GramadoKernel.SaveFile
import GramadoKernel.ShortNames

namespace GramadoKernel

-- sdGRAMADO and sdDE
structure SpecialDirectory where
  initialized : Bool
  address : UInt64

-- struct device_d; its file is told by isDevice.
structure Device where
  magic : Nat
  mountPoint : Option CString
  file : Option Bool

structure FileSystem extends Io where
  volume : Volume
  sdGramado : SpecialDirectory
  sdDe : SpecialDirectory
  deviceList : Nat → Option Device

-- A file structure with the descriptor that leads to it.
def FileSystem.installed (s : FileSystem) (pid slot id : Nat) (f : File) : FileSystem :=
  {s with toIo := {s.toIo.put id f with objects := Function.update s.objects pid (Function.update (s.objects pid) slot (some id))}}

def spaceExtension : Nat → UInt8
  | 0 => 0x20
  | 1 => 0x20
  | 2 => 0x20
  | _ => 0

end GramadoKernel
