import NodeSurvey.Text.Quoted

/-! Why looking at a host can fail: an error of the system, within the purposes that it served. -/

namespace NodeSurvey

inductive IoError where
  | notFound
  | notADirectory
  | isADirectory
  | nameTooLong
  | tooManyLinks
  | nulInName
  | notText
  | notExecutable
deriving DecidableEq

def IoError.message : IoError → String
  | notFound => "No such file or directory (os error 2)"
  | notADirectory => "Not a directory (os error 20)"
  | isADirectory => "Is a directory (os error 21)"
  | nameTooLong => "File name too long (os error 36)"
  | tooManyLinks => "Too many levels of symbolic links (os error 40)"
  | nulInName => "file name contained an unexpected NUL byte"
  | notText => "stream did not contain valid UTF-8"
  | notExecutable => "Exec format error (os error 8)"

inductive ExitStatus where
  | exited (code : Nat)
  | killed (signal : Nat)
deriving DecidableEq

def signalNames : List String := [
  "SIGHUP", "SIGINT", "SIGQUIT", "SIGILL", "SIGTRAP", "SIGABRT", "SIGBUS",
  "SIGFPE", "SIGKILL", "SIGUSR1", "SIGSEGV", "SIGUSR2", "SIGPIPE", "SIGALRM",
  "SIGTERM", "SIGSTKFLT", "SIGCHLD", "SIGCONT", "SIGSTOP", "SIGTSTP", "SIGTTIN",
  "SIGTTOU", "SIGURG", "SIGXCPU", "SIGXFSZ", "SIGVTALRM", "SIGPROF", "SIGWINCH",
  "SIGIO", "SIGPWR", "SIGSYS"]

def ExitStatus.succeeded : ExitStatus → Bool
  | exited code => code = 0
  | killed _ => false

def ExitStatus.text : ExitStatus → String
  | exited code => "exit status: " ++ Nat.repr code
  | killed n =>
    match if n = 0 then none else signalNames[n - 1]? with
    | some name => "signal: " ++ Nat.repr n ++ " (" ++ name ++ ")"
    | none => "signal: " ++ Nat.repr n

inductive Purpose where
  | readFile (path : String)
  | listDirectory (path : String)
  | runHook (path : String)
  | kernelVersion
  | osRelease
  | loadedModules
  | iommuSupport
  | networkInterfaces
  | blockDevices
  | pciDevices
  | usbDevices
  | other (text : String)
deriving DecidableEq

def Purpose.failed : Purpose → String
  | readFile path => "Failed to read " ++ Text.quotedPath path
  | listDirectory path => "Failed to list " ++ path
  | runHook path => "Failed to run hook " ++ path
  | kernelVersion => "Failed to get kernel version"
  | osRelease => "Failed to get os-release"
  | loadedModules => "Failed to read list of loaded modules"
  | iommuSupport => "Failed to check for IOMMU support"
  | networkInterfaces => "Failed to list network interfaces"
  | blockDevices => "Failed to list block devices"
  | pciDevices => "Failed to scan PCI devices"
  | usbDevices => "Failed to scan USB devices"
  | other text => text

inductive Failure where
  | io (e : IoError)
  | hook (path : String) (status : ExitStatus)
  | plain (text : String)
  | within (purpose : Purpose) (cause : Failure)
deriving DecidableEq

def Failure.message : Failure → String
  | io e => e.message
  | hook path status => "hook " ++ path ++ " exited with " ++ status.text
  | plain text => text
  | within purpose cause => purpose.failed ++ ": " ++ cause.message

end NodeSurvey
