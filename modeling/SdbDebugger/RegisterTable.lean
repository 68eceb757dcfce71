import SdbDebugger.Kernel

/-! The register table: `register_info.hpp` and `detail/registers.inc`.
Offsets follow the x86-64 layout of `struct user` in `sys/user.h`: 27 general
registers from 0, the `i387` block from 224, the debug registers from 848. -/

namespace SdbDebugger

inductive RegisterId where
  | rax | rdx | rcx | rbx | rsi | rdi | rbp | rsp | r8 | r9 | r10 | r11 | r12 | r13 | r14 | r15
  | rip | eflags | cs | fs | gs | ss | ds | es | orig_rax | eax | ebp | ebx | ecx | edi | edx
  | esi | esp | r8d | r9d | r10d | r11d | r12d | r13d | r14d | r15d | ax | bp | bx | cx | di | dx
  | si | sp | r8w | r9w | r10w | r11w | r12w | r13w | r14w | r15w | ah | bh | ch | dh | al | bl
  | bpl | cl | dil | dl | sil | spl | r8b | r9b | r10b | r11b | r12b | r13b | r14b | r15b | fcw
  | fop | frdp | frip | fsw | ftw | mxcsr | mxcsrmask | st0 | st1 | st2 | st3 | st4 | st5 | st6
  | st7 | mm0 | mm1 | mm2 | mm3 | mm4 | mm5 | mm6 | mm7 | xmm0 | xmm1 | xmm2 | xmm3 | xmm4 | xmm5
  | xmm6 | xmm7 | xmm8 | xmm9 | xmm10 | xmm11 | xmm12 | xmm13 | xmm14 | xmm15 | dr0 | dr1 | dr2
  | dr3 | dr4 | dr5 | dr6 | dr7
  deriving DecidableEq, Repr

inductive RegisterType where
  | gpr | subGpr | fpr | dr
  deriving DecidableEq, Repr

inductive RegisterFormat where
  | uint | doubleFloat | longDouble | vector
  deriving DecidableEq, Repr

structure RegisterInfo where
  id : RegisterId
  name : String
  dwarfId : Int
  size : Nat
  offset : BitVec 64
  type : RegisterType
  format : RegisterFormat
  deriving DecidableEq, Repr

/-- Fields of `user_regs_struct` in the order of its declaration. -/
inductive UserRegsField where
  | r15 | r14 | r13 | r12 | rbp | rbx | r11 | r10 | r9 | r8 | rax | rcx | rdx | rsi | rdi
  | orig_rax | rip | cs | eflags | rsp | ss | fs_base | gs_base | ds | es | fs | gs
  deriving DecidableEq, Repr

/-- Fields of `user_fpregs_struct` in the order of its declaration. -/
inductive UserFpregsField where
  | cwd | swd | ftw | fop | rip | rdp | mxcsr | mxcr_mask | st_space | xmm_space
  deriving DecidableEq, Repr

def offsetofRegs : Nat := 0
def sizeofRegs : Nat := 216
def offsetofI387 : Nat := 224
def sizeofI387 : Nat := 512
def offsetofDebugreg : Nat := 848
def sizeofUser : Nat := 912

def UserRegsField.offset (reg : UserRegsField) : Nat := 8 * reg.ctorIdx

def UserFpregsField.offset : UserFpregsField → Nat
  | .cwd => 0 | .swd => 2 | .ftw => 4 | .fop => 6 | .rip => 8 | .rdp => 16
  | .mxcsr => 24 | .mxcr_mask => 28 | .st_space => 32 | .xmm_space => 160

def UserFpregsField.size : UserFpregsField → Nat
  | .cwd => 2 | .swd => 2 | .ftw => 2 | .fop => 2 | .rip => 8 | .rdp => 8
  | .mxcsr => 4 | .mxcr_mask => 4 | .st_space => 128 | .xmm_space => 256

section Macros

def gprOffset (reg : UserRegsField) : Nat := offsetofRegs + reg.offset
def fprOffset (reg : UserFpregsField) : Nat := offsetofI387 + reg.offset
def drOffset (number : Nat) : Nat := offsetofDebugreg + number * 8

def defineRegister (id : RegisterId) (name : String) (dwarfId : Int) (size offset : Nat)
    (type : RegisterType) (format : RegisterFormat) : RegisterInfo :=
  ⟨id, name, dwarfId, size, BitVec.ofNat 64 offset, type, format⟩

def gpr64 (id : RegisterId) (name : String) (dwarfId : Int) (reg : UserRegsField) :=
  defineRegister id name dwarfId 8 (gprOffset reg) .gpr .uint
def gpr32 (id : RegisterId) (name : String) (super : UserRegsField) :=
  defineRegister id name (-1) 4 (gprOffset super) .subGpr .uint
def gpr16 (id : RegisterId) (name : String) (super : UserRegsField) :=
  defineRegister id name (-1) 2 (gprOffset super) .subGpr .uint
def gpr8H (id : RegisterId) (name : String) (super : UserRegsField) :=
  defineRegister id name (-1) 1 (gprOffset super + 1) .subGpr .uint
def gpr8L (id : RegisterId) (name : String) (super : UserRegsField) :=
  defineRegister id name (-1) 1 (gprOffset super) .subGpr .uint
def fpr (id : RegisterId) (name : String) (dwarfId : Int) (userName : UserFpregsField) :=
  defineRegister id name dwarfId userName.size (fprOffset userName) .fpr .uint
def fpSt (id : RegisterId) (name : String) (number : Nat) :=
  defineRegister id name (33 + number) 16 (fprOffset .st_space + number * 16) .fpr .longDouble
def fpMm (id : RegisterId) (name : String) (number : Nat) :=
  defineRegister id name (41 + number) 8 (fprOffset .st_space + number * 16) .fpr .vector
def fpXmm (id : RegisterId) (name : String) (number : Nat) :=
  defineRegister id name (17 + number) 16 (fprOffset .xmm_space + number * 16) .fpr .vector
def dr (id : RegisterId) (name : String) (number : Nat) :=
  defineRegister id name (-1) 8 (drOffset number) .dr .uint

end Macros

def gRegisterInfos : List RegisterInfo := [
  gpr64 .rax "rax" 0 .rax, gpr64 .rdx "rdx" 1 .rdx, gpr64 .rcx "rcx" 2 .rcx,
  gpr64 .rbx "rbx" 3 .rbx, gpr64 .rsi "rsi" 4 .rsi, gpr64 .rdi "rdi" 5 .rdi,
  gpr64 .rbp "rbp" 6 .rbp, gpr64 .rsp "rsp" 7 .rsp, gpr64 .r8 "r8" 8 .r8, gpr64 .r9 "r9" 9 .r9,
  gpr64 .r10 "r10" 10 .r10, gpr64 .r11 "r11" 11 .r11, gpr64 .r12 "r12" 12 .r12,
  gpr64 .r13 "r13" 13 .r13, gpr64 .r14 "r14" 14 .r14, gpr64 .r15 "r15" 15 .r15,
  gpr64 .rip "rip" 16 .rip, gpr64 .eflags "eflags" 49 .eflags, gpr64 .cs "cs" 51 .cs,
  gpr64 .fs "fs" 54 .fs, gpr64 .gs "gs" 55 .gs, gpr64 .ss "ss" 52 .ss, gpr64 .ds "ds" 53 .ds,
  gpr64 .es "es" 50 .es, gpr64 .orig_rax "orig_rax" (-1) .orig_rax, gpr32 .eax "eax" .rax,
  gpr32 .ebp "ebp" .rbp, gpr32 .ebx "ebx" .rbx, gpr32 .ecx "ecx" .rcx, gpr32 .edi "edi" .rdi,
  gpr32 .edx "edx" .rdx, gpr32 .esi "esi" .rsi, gpr32 .esp "esp" .rsp, gpr32 .r8d "r8d" .r8,
  gpr32 .r9d "r9d" .r9, gpr32 .r10d "r10d" .r10, gpr32 .r11d "r11d" .r11,
  gpr32 .r12d "r12d" .r12, gpr32 .r13d "r13d" .r13, gpr32 .r14d "r14d" .r14,
  gpr32 .r15d "r15d" .r15, gpr16 .ax "ax" .rax, gpr16 .bp "bp" .rbp, gpr16 .bx "bx" .rbx,
  gpr16 .cx "cx" .rcx, gpr16 .di "di" .rdi, gpr16 .dx "dx" .rdx, gpr16 .si "si" .rsi,
  gpr16 .sp "sp" .rsp, gpr16 .r8w "r8w" .r8, gpr16 .r9w "r9w" .r9, gpr16 .r10w "r10w" .r10,
  gpr16 .r11w "r11w" .r11, gpr16 .r12w "r12w" .r12, gpr16 .r13w "r13w" .r13,
  gpr16 .r14w "r14w" .r14, gpr16 .r15w "r15w" .r15, gpr8H .ah "ah" .rax, gpr8H .bh "bh" .rbx,
  gpr8H .ch "ch" .rcx, gpr8H .dh "dh" .rdx, gpr8L .al "al" .rax, gpr8L .bl "bl" .rbx,
  gpr8L .bpl "bpl" .rbp, gpr8L .cl "cl" .rcx, gpr8L .dil "dil" .rdi, gpr8L .dl "dl" .rdx,
  gpr8L .sil "sil" .rsi, gpr8L .spl "spl" .rsp, gpr8L .r8b "r8b" .r8, gpr8L .r9b "r9b" .r9,
  gpr8L .r10b "r10b" .r10, gpr8L .r11b "r11b" .r11, gpr8L .r12b "r12b" .r12,
  gpr8L .r13b "r13b" .r13, gpr8L .r14b "r14b" .r14, gpr8L .r15b "r15b" .r15,
  fpr .fcw "fcw" 65 .cwd, fpr .fop "fop" (-1) .fop, fpr .frdp "frdp" (-1) .rdp,
  fpr .frip "frip" (-1) .rip, fpr .fsw "fsw" 66 .swd, fpr .ftw "ftw" (-1) .ftw,
  fpr .mxcsr "mxcsr" 64 .mxcsr, fpr .mxcsrmask "mxcsrmask" (-1) .mxcr_mask, fpSt .st0 "st0" 0,
  fpSt .st1 "st1" 1, fpSt .st2 "st2" 2, fpSt .st3 "st3" 3, fpSt .st4 "st4" 4, fpSt .st5 "st5" 5,
  fpSt .st6 "st6" 6, fpSt .st7 "st7" 7, fpMm .mm0 "mm0" 0, fpMm .mm1 "mm1" 1, fpMm .mm2 "mm2" 2,
  fpMm .mm3 "mm3" 3, fpMm .mm4 "mm4" 4, fpMm .mm5 "mm5" 5, fpMm .mm6 "mm6" 6, fpMm .mm7 "mm7" 7,
  fpXmm .xmm0 "xmm0" 0, fpXmm .xmm1 "xmm1" 1, fpXmm .xmm2 "xmm2" 2, fpXmm .xmm3 "xmm3" 3,
  fpXmm .xmm4 "xmm4" 4, fpXmm .xmm5 "xmm5" 5, fpXmm .xmm6 "xmm6" 6, fpXmm .xmm7 "xmm7" 7,
  fpXmm .xmm8 "xmm8" 8, fpXmm .xmm9 "xmm9" 9, fpXmm .xmm10 "xmm10" 10, fpXmm .xmm11 "xmm11" 11,
  fpXmm .xmm12 "xmm12" 12, fpXmm .xmm13 "xmm13" 13, fpXmm .xmm14 "xmm14" 14,
  fpXmm .xmm15 "xmm15" 15, dr .dr0 "dr0" 0, dr .dr1 "dr1" 1, dr .dr2 "dr2" 2, dr .dr3 "dr3" 3,
  dr .dr4 "dr4" 4, dr .dr5 "dr5" 5, dr .dr6 "dr6" 6, dr .dr7 "dr7" 7]

end SdbDebugger
