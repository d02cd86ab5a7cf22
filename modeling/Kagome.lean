import Kagome.Scale.Basic
import Kagome.Scale.Compact
import Kagome.Grandpa.Structs
import Kagome.Grandpa.RoundTrip
import Kagome.Grandpa.Canonical
import Kagome.Application.Json
import Kagome.Application.ProgramOptions
import Kagome.Application.AppConfigurationImpl
import Kagome.Application.Stages
import Kagome.Application.Priority
import Kagome.Application.Validation
import Kagome.Application.Members
import Kagome.Application.Acceptance
import Kagome.Api.HttpListener
import Kagome.Api.Lifecycle
import Kagome.Injector.SyncingNodeInjector
