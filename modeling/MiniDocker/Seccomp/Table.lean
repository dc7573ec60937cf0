import Mathlib.Algebra.Group.Int
import Mathlib.Algebra.Group.Nat.Basic
import Mathlib.Data.List.Chain
import Mathlib.Data.List.Nodup

/-!
# The x86-64 syscall table of the seccomp compiler

`SYSCALLS`, `ABSOLUTELY_FORBIDDEN_SYSCALLS` and `ALLOWED_SYSCALLS_WHITELIST` of
`seccomp.py`, in source order, with the BPF and seccomp constants the compiler
uses. A Python dict is a list of pairs looked up by key; a Python set of names is
a list tested by membership.

The facts proved here are the only ones about the tables that the compiler's
proofs need: numbers are strictly increasing in source order (so a number names
at most one entry), every number fits a 32-bit word, and at most 255 entries carry
a name outside the forbidden set.
-/

namespace MiniDocker.Seccomp

set_option autoImplicit false
set_option maxRecDepth 8192

/-! ### Constants from `<linux/bpf_common.h>` and `<linux/seccomp.h>` -/

def bpfLd : Nat := 0x00
def bpfJmp : Nat := 0x05
def bpfRet : Nat := 0x06
def bpfW : Nat := 0x00
def bpfAbs : Nat := 0x20
def bpfJeq : Nat := 0x10
def bpfK : Nat := 0x00

def seccompRetKillProcess : Nat := 0x80000000
def seccompRetAllow : Nat := 0x7FFF0000

/-- Audit architecture for x86_64. -/
def auditArchX86_64 : Nat := 0xC000003E

def seccompDataNrOffset : Nat := 0
def seccompDataArchOffset : Nat := 4

/-! ### Tables -/

/-- Common syscall numbers for x86_64 (`SYSCALLS`). -/
def syscalls : List (String × Nat) := [
  ("read", 0), ("write", 1), ("open", 2), ("close", 3),
  ("stat", 4), ("fstat", 5), ("lstat", 6), ("poll", 7),
  ("lseek", 8), ("mmap", 9), ("mprotect", 10), ("munmap", 11),
  ("brk", 12), ("rt_sigaction", 13), ("rt_sigprocmask", 14), ("rt_sigreturn", 15),
  ("ioctl", 16), ("pread64", 17), ("pwrite64", 18), ("readv", 19),
  ("writev", 20), ("access", 21), ("pipe", 22), ("select", 23),
  ("sched_yield", 24), ("mremap", 25), ("msync", 26), ("mincore", 27),
  ("madvise", 28), ("dup", 32), ("dup2", 33), ("pause", 34),
  ("nanosleep", 35), ("getitimer", 36), ("alarm", 37), ("setitimer", 38),
  ("getpid", 39), ("socket", 41), ("connect", 42), ("accept", 43),
  ("sendto", 44), ("recvfrom", 45), ("sendmsg", 46), ("recvmsg", 47),
  ("shutdown", 48), ("bind", 49), ("listen", 50), ("getsockname", 51),
  ("getpeername", 52), ("socketpair", 53), ("setsockopt", 54), ("getsockopt", 55),
  ("clone", 56), ("fork", 57), ("vfork", 58), ("execve", 59),
  ("exit", 60), ("wait4", 61), ("kill", 62), ("uname", 63),
  ("fcntl", 72), ("flock", 73), ("fsync", 74), ("fdatasync", 75),
  ("truncate", 76), ("ftruncate", 77), ("getdents", 78), ("getcwd", 79),
  ("chdir", 80), ("fchdir", 81), ("rename", 82), ("mkdir", 83),
  ("rmdir", 84), ("creat", 85), ("link", 86), ("unlink", 87),
  ("symlink", 88), ("readlink", 89), ("chmod", 90), ("fchmod", 91),
  ("chown", 92), ("fchown", 93), ("lchown", 94), ("umask", 95),
  ("gettimeofday", 96), ("getrlimit", 97), ("getrusage", 98), ("sysinfo", 99),
  ("times", 100), ("getuid", 102), ("syslog", 103), ("getgid", 104),
  ("setuid", 105), ("setgid", 106), ("geteuid", 107), ("getegid", 108),
  ("setpgid", 109), ("getppid", 110), ("getpgrp", 111), ("setsid", 112),
  ("setreuid", 113), ("setregid", 114), ("getgroups", 115), ("setgroups", 116),
  ("setresuid", 117), ("getresuid", 118), ("setresgid", 119), ("getresgid", 120),
  ("getpgid", 121), ("setfsuid", 122), ("setfsgid", 123), ("getsid", 124),
  ("capget", 125), ("capset", 126), ("rt_sigpending", 127), ("rt_sigtimedwait", 128),
  ("rt_sigqueueinfo", 129), ("rt_sigsuspend", 130), ("sigaltstack", 131), ("utime", 132),
  ("mknod", 133), ("personality", 135), ("statfs", 137), ("fstatfs", 138),
  ("getpriority", 140), ("setpriority", 141), ("sched_setparam", 142), ("sched_getparam", 143),
  ("sched_setscheduler", 144), ("sched_getscheduler", 145), ("sched_get_priority_max", 146), ("sched_get_priority_min", 147),
  ("sched_rr_get_interval", 148), ("mlock", 149), ("munlock", 150), ("mlockall", 151),
  ("munlockall", 152), ("vhangup", 153), ("prctl", 157), ("arch_prctl", 158),
  ("setrlimit", 160), ("chroot", 161), ("sync", 162), ("acct", 163),
  ("settimeofday", 164), ("mount", 165), ("umount2", 166), ("swapon", 167),
  ("swapoff", 168), ("reboot", 169), ("sethostname", 170), ("setdomainname", 171),
  ("iopl", 172), ("ioperm", 173), ("gettid", 186), ("readahead", 187),
  ("setxattr", 188), ("lsetxattr", 189), ("fsetxattr", 190), ("getxattr", 191),
  ("lgetxattr", 192), ("fgetxattr", 193), ("listxattr", 194), ("llistxattr", 195),
  ("flistxattr", 196), ("removexattr", 197), ("lremovexattr", 198), ("fremovexattr", 199),
  ("tkill", 200), ("time", 201), ("futex", 202), ("sched_setaffinity", 203),
  ("sched_getaffinity", 204), ("set_thread_area", 205), ("get_thread_area", 211), ("epoll_create", 213),
  ("getdents64", 217), ("set_tid_address", 218), ("timer_create", 222), ("timer_settime", 223),
  ("timer_gettime", 224), ("timer_getoverrun", 225), ("timer_delete", 226), ("clock_settime", 227),
  ("clock_gettime", 228), ("clock_getres", 229), ("clock_nanosleep", 230), ("exit_group", 231),
  ("epoll_wait", 232), ("epoll_ctl", 233), ("tgkill", 234), ("utimes", 235),
  ("mbind", 237), ("set_mempolicy", 238), ("get_mempolicy", 239), ("openat", 257),
  ("mkdirat", 258), ("mknodat", 259), ("fchownat", 260), ("futimesat", 261),
  ("newfstatat", 262), ("unlinkat", 263), ("renameat", 264), ("linkat", 265),
  ("symlinkat", 266), ("readlinkat", 267), ("fchmodat", 268), ("faccessat", 269),
  ("pselect6", 270), ("ppoll", 271), ("set_robust_list", 273), ("get_robust_list", 274),
  ("splice", 275), ("tee", 276), ("sync_file_range", 277), ("vmsplice", 278),
  ("move_pages", 279), ("utimensat", 280), ("epoll_pwait", 281), ("signalfd", 282),
  ("timerfd_create", 283), ("eventfd", 284), ("fallocate", 285), ("timerfd_settime", 286),
  ("timerfd_gettime", 287), ("accept4", 288), ("signalfd4", 289), ("eventfd2", 290),
  ("epoll_create1", 291), ("dup3", 292), ("pipe2", 293), ("inotify_init1", 294),
  ("preadv", 295), ("pwritev", 296), ("rt_tgsigqueueinfo", 297), ("perf_event_open", 298),
  ("recvmmsg", 299), ("fanotify_init", 300), ("fanotify_mark", 301), ("prlimit64", 302),
  ("name_to_handle_at", 303), ("open_by_handle_at", 304), ("clock_adjtime", 305), ("syncfs", 306),
  ("sendmmsg", 307), ("setns", 308), ("getcpu", 309), ("process_vm_readv", 310),
  ("process_vm_writev", 311), ("kcmp", 312), ("finit_module", 313), ("sched_setattr", 314),
  ("sched_getattr", 315), ("renameat2", 316), ("seccomp", 317), ("getrandom", 318),
  ("memfd_create", 319), ("bpf", 321), ("execveat", 322), ("userfaultfd", 323),
  ("membarrier", 324), ("mlock2", 325), ("copy_file_range", 326), ("preadv2", 327),
  ("pwritev2", 328), ("pkey_mprotect", 329), ("pkey_alloc", 330), ("pkey_free", 331),
  ("statx", 332), ("rseq", 334), ("pidfd_send_signal", 424), ("pidfd_open", 434),
  ("clone3", 435), ("close_range", 436), ("openat2", 437), ("pidfd_getfd", 438),
  ("faccessat2", 439), ("epoll_pwait2", 441)]

/-- Names that are never allowed, even when requested (`ABSOLUTELY_FORBIDDEN_SYSCALLS`). -/
def absolutelyForbiddenSyscalls : List String := [
  "ptrace", "process_vm_readv", "process_vm_writev", "kcmp", "init_module", "finit_module",
  "delete_module", "kexec_load", "kexec_file_load", "reboot", "swapon", "swapoff",
  "mount", "umount", "umount2", "pivot_root", "settimeofday", "clock_settime",
  "clock_adjtime", "adjtimex", "sethostname", "setdomainname", "iopl", "ioperm",
  "acct", "syslog", "lookup_dcookie", "bpf", "perf_event_open", "userfaultfd",
  "fanotify_init", "fanotify_mark", "add_key", "keyctl", "request_key", "capset",
  "setns", "unshare", "personality", "quotactl", "vhangup", "move_pages",
  "seccomp"]

/-- The default whitelist (`ALLOWED_SYSCALLS_WHITELIST`). -/
def allowedSyscallsWhitelist : List String := [
  "read", "write", "open", "openat", "close", "lseek",
  "pread64", "pwrite64", "readv", "writev", "preadv", "pwritev",
  "preadv2", "pwritev2", "stat", "fstat", "lstat", "newfstatat",
  "statx", "access", "faccessat", "faccessat2", "fcntl", "flock",
  "fsync", "fdatasync", "truncate", "ftruncate", "rename", "renameat",
  "renameat2", "link", "linkat", "unlink", "unlinkat", "symlink",
  "symlinkat", "readlink", "readlinkat", "chmod", "fchmod", "fchmodat",
  "chown", "fchown", "fchownat", "lchown", "creat", "mknod",
  "mknodat", "getdents", "getdents64", "getcwd", "chdir", "fchdir",
  "mkdir", "mkdirat", "rmdir", "mmap", "mprotect", "munmap",
  "brk", "mremap", "msync", "mincore", "madvise", "mlock",
  "munlock", "mlockall", "munlockall", "mlock2", "fork", "vfork",
  "clone", "clone3", "execve", "execveat", "exit", "exit_group",
  "wait4", "rt_sigaction", "rt_sigprocmask", "rt_sigreturn", "rt_sigpending", "rt_sigtimedwait",
  "rt_sigsuspend", "sigaltstack", "kill", "tgkill", "tkill", "getpid",
  "getppid", "gettid", "getuid", "getgid", "geteuid", "getegid",
  "getresuid", "getresgid", "getgroups", "getpgid", "getpgrp", "getsid",
  "setuid", "setgid", "setreuid", "setregid", "setresuid", "setresgid",
  "setgroups", "setpgid", "setsid", "setfsuid", "setfsgid", "pipe",
  "pipe2", "dup", "dup2", "dup3", "socket", "connect",
  "accept", "accept4", "bind", "listen", "sendto", "recvfrom",
  "sendmsg", "recvmsg", "sendmmsg", "recvmmsg", "shutdown", "getsockname",
  "getpeername", "socketpair", "setsockopt", "getsockopt", "poll", "ppoll",
  "select", "pselect6", "epoll_create", "epoll_create1", "epoll_ctl", "epoll_wait",
  "epoll_pwait", "epoll_pwait2", "clock_gettime", "clock_getres", "clock_nanosleep", "gettimeofday",
  "nanosleep", "times", "timer_create", "timer_settime", "timer_gettime", "timer_getoverrun",
  "timer_delete", "alarm", "getitimer", "setitimer", "futex", "set_robust_list",
  "get_robust_list", "getrandom", "getrlimit", "setrlimit", "prlimit64", "getrusage",
  "sched_yield", "sched_getparam", "sched_setparam", "sched_getscheduler", "sched_setscheduler", "sched_get_priority_max",
  "sched_get_priority_min", "sched_rr_get_interval", "sched_getaffinity", "sched_setaffinity", "sched_getattr", "sched_setattr",
  "uname", "sysinfo", "getcpu", "ioctl", "prctl", "arch_prctl",
  "set_tid_address", "set_thread_area", "get_thread_area", "capget", "umask", "sync",
  "syncfs", "eventfd", "eventfd2", "signalfd", "signalfd4", "timerfd_create",
  "timerfd_settime", "timerfd_gettime", "inotify_init1", "fallocate", "splice", "tee",
  "vmsplice", "copy_file_range", "sync_file_range", "memfd_create", "statfs", "fstatfs",
  "utime", "utimes", "utimensat", "futimesat", "getxattr", "lgetxattr",
  "fgetxattr", "listxattr", "llistxattr", "flistxattr", "mbind", "get_mempolicy",
  "set_mempolicy", "pause", "rseq", "close_range", "openat2", "rt_tgsigqueueinfo",
  "membarrier"]

/-! ### Facts about the tables -/

theorem syscalls_numbers_increasing : (syscalls.map Prod.snd).Chain' (· < ·) := by
  simp [syscalls]

theorem syscalls_numbers_nodup : (syscalls.map Prod.snd).Nodup :=
  (List.chain'_iff_pairwise.mp syscalls_numbers_increasing).imp (fun h => Nat.ne_of_lt h)

theorem syscalls_number_lt {name : String} {nr : Nat} (h : (name, nr) ∈ syscalls) :
    nr < 2 ^ 32 := by
  have hall : ∀ p ∈ syscalls, p.2 < 2 ^ 32 := by decide
  exact hall _ h

/-- A name as a number: its code points in base `2 ^ 33`, each shifted by one so that no
digit is zero. Membership in the forbidden set is decided on these numbers, which the kernel
compares at once, rather than on strings, which it compares one character at a time. -/
def nameCode : List Char → Nat
  | [] => 0
  | c :: cs => (c.toNat + 1) + 2 ^ 33 * nameCode cs

theorem nameCode_injective : Function.Injective nameCode
  | [], [], _ => rfl
  | [], _ :: _, h => by simp only [nameCode] at h; omega
  | _ :: _, [], h => by simp only [nameCode] at h; omega
  | c :: cs, d :: ds, h => by
    have hc : c.toNat < 2 ^ 32 := c.val.toNat_lt_size
    have hd : d.toNat < 2 ^ 32 := d.val.toNat_lt_size
    simp only [nameCode] at h
    have hcd : c.toNat = d.toNat := by omega
    rw [show c = d by simpa using congrArg Char.ofNat hcd,
      nameCode_injective (show nameCode cs = nameCode ds by omega)]

theorem not_mem_iff_nameCode {s : String} {l : List String} :
    s ∉ l ↔ nameCode s.toList ∉ l.map (nameCode ∘ String.toList) :=
  not_congr (List.mem_map_of_injective (nameCode_injective.comp fun _ _ => String.ext)).symm

theorem syscalls_not_forbidden_length :
    (syscalls.filter fun p => p.1 ∉ absolutelyForbiddenSyscalls).length = 249 := by
  have h : (syscalls.filter fun p =>
      nameCode p.1.toList ∉ absolutelyForbiddenSyscalls.map (nameCode ∘ String.toList)).length =
      249 := by decide
  rwa [← List.filter_congr fun p _ => decide_eq_decide.mpr not_mem_iff_nameCode] at h

theorem mem_of_lookup {name : String} {nr : Nat} (h : syscalls.lookup name = some nr) :
    (name, nr) ∈ syscalls := by
  obtain ⟨l₁, l₂, hl, -⟩ := List.lookup_eq_some_iff.mp h
  rw [hl]
  exact List.mem_append_right _ (List.mem_cons_self _ _)

theorem lookup_injective {s t : String} {nr : Nat} (hs : syscalls.lookup s = some nr)
    (ht : syscalls.lookup t = some nr) : s = t :=
  congrArg Prod.fst (List.inj_on_of_nodup_map syscalls_numbers_nodup
    (mem_of_lookup hs) (mem_of_lookup ht) rfl)

end MiniDocker.Seccomp
