/-!
# Error Codes

The `esp_err_t` codes the functions of this development return.
-/

namespace SceneHub

inductive EspErr where
  | ok
  | invalidArg
  | invalidState
  | noMem
  | notFound
  | notSupported
  | fail
  | invalidSize
  | invalidVersion
  | timeout
  deriving DecidableEq, Repr

end SceneHub
