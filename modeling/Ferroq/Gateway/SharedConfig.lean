/-!
# The shared configuration

The settings that a reload may change while the gateway runs, behind a lock of
their own.
-/

namespace Ferroq.Gateway

structure SharedConfig where
  accessToken : String
  deriving DecidableEq

namespace SharedConfig

def setAccessToken (config : SharedConfig) (token : String) : SharedConfig :=
  { config with accessToken := token }

@[simp]
theorem accessToken_setAccessToken (config : SharedConfig) (token : String) :
    (config.setAccessToken token).accessToken = token := rfl

end SharedConfig

end Ferroq.Gateway
