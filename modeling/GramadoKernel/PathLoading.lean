import GramadoKernel.LoadedChain
import GramadoKernel.WorkingDirectory

namespace GramadoKernel

-- fs.h
def fsNBuffers : Nat := 5
def dot : UInt8 := 46

-- The arguments of fs_load_path.
structure PathRequest where
  path : Option CString
  address : UInt64
  bufferSize : UInt64

-- The volume with the caches that a load has filled on its way to the loop.
def openedVolume (v : Volume) (q : LoadRequest) : Volume :=
  match fsLoadFileOpening v q with
  | .error _ => v
  | .ok (_,w) => w

-- A directory buffer with the sectors that a load has put into it.
def Volume.received (v : Volume) (address : UInt64) (stored : List SectorWrite) : Volume :=
  {v with directory := Function.update v.directory address fun i =>
    afterWrites (fun a => v.directory address (a-address).toNat) stored (address+UInt64.ofNat i)}

end GramadoKernel
