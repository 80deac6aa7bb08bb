import ProbeCheck.Attachment

namespace ProbeCheck

structure Catalog where
  arch : Text
  code : Int
  records : List Attachment

namespace Catalog

-- From this version code on a syscall is entered through a wrapper named after the architecture.
def namingThreshold : Nat := 41700

def cloneSyscall : Text := "sys_clone"
def cloneMechanism : Text := "Kprobe"

def clonePoint (code : Int) (arch : Text) : Text :=
  if namingThreshold ≤ code then "__" ++ arch ++ "_" ++ cloneSyscall else cloneSyscall

def invariants : List Attachment :=
  [⟨"dns_queries", "XDP"⟩,
   ⟨"tcp_recvmsg", "Kprobe"⟩, ⟨"tcp_recvmsg", "Kretprobe"⟩,
   ⟨"tcp_sendmsg", "Kprobe"⟩, ⟨"tcp_sendmsg", "Kretprobe"⟩,
   ⟨"tcp_v4_connect", "Kprobe"⟩, ⟨"tcp_v4_connect", "Kretprobe"⟩,
   ⟨"udp_rcv", "Kprobe"⟩,
   ⟨"udp_sendmsg", "Kprobe"⟩,
   ⟨"vfs_read", "Kprobe"⟩, ⟨"vfs_read", "Kretprobe"⟩,
   ⟨"vfs_write", "Kprobe"⟩, ⟨"vfs_write", "Kretprobe"⟩]

def expected (arch : Text) (code : Int) : Catalog :=
  ⟨arch, code, ⟨clonePoint code arch, cloneMechanism⟩ :: invariants⟩

def recordSet (catalog : Catalog) : List Text :=
  sortTexts (catalog.records.map Attachment.descriptor)

end Catalog
end ProbeCheck
