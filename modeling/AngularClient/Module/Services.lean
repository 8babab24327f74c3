import AngularClient.Module.Resource
import AngularClient.Template.Rendering

namespace AngularClient.Module

def auth : Template := [
  .text "  module",
  .lines ["    .factory("],
  .slot ["services", "auth"] [.literal],
  .text ", function() \x7b",
  .lines [
    "      let props = ['accessTokenId', 'currentUserId', 'rememberMe'];",
    "      let propsPrefix = '$LoopBack$';",
    "",
    "      function LoopBackAuth() \x7b",
    "        let self = this;",
    "        props.forEach(function(name) \x7b",
    "          self[name] = load(name);",
    "        \x7d);",
    "        this.currentUserData = null;",
    "      \x7d",
    "",
    "      LoopBackAuth.prototype.save = function() \x7b",
    "        let self = this;",
    "        let storage = this.rememberMe ? localStorage : sessionStorage;",
    "        props.forEach(function(name) \x7b",
    "          save(storage, name, self[name]);",
    "        \x7d);",
    "      \x7d;",
    "",
    "      LoopBackAuth.prototype.setUser = function(accessTokenId, userId, userData) \x7b",
    "        this.accessTokenId = accessTokenId;",
    "        this.currentUserId = userId;",
    "        this.currentUserData = userData;",
    "      \x7d;",
    "",
    "      LoopBackAuth.prototype.clearUser = function() \x7b",
    "        this.accessTokenId = null;",
    "        this.currentUserId = null;",
    "        this.currentUserData = null;",
    "      \x7d;",
    "",
    "      LoopBackAuth.prototype.clearStorage = function() \x7b",
    "        props.forEach(function(name) \x7b",
    "          save(sessionStorage, name, null);",
    "          save(localStorage, name, null);",
    "        \x7d);",
    "      \x7d;",
    "",
    "      return new LoopBackAuth();",
    "",
    "      function save(storage, name, value) \x7b",
    "        try \x7b",
    "          let key = propsPrefix + name;",
    "          if (value == null) value = '';",
    "          storage[key] = value;",
    "        \x7d catch (err) \x7b",
    "          console.log('Cannot access local/session storage:', err);",
    "        \x7d",
    "      \x7d",
    "",
    "      function load(name) \x7b",
    "        let key = propsPrefix + name;",
    "        return localStorage[key] || sessionStorage[key] || null;",
    "      \x7d",
    "    \x7d)",
    "    .config(['$httpProvider', function($httpProvider) \x7b",
    "      $httpProvider.interceptors.push("],
  .slot ["services", "auth_interceptor"] [.literal],
  .text ");",
  .lines [
    "    \x7d])",
    "    .factory("],
  .slot ["services", "auth_interceptor"] [.literal],
  .text ", ['$q', ",
  .slot ["services", "auth"] [.literal],
  .text ",",
  .lines [
    "      function($q, LoopBackAuth) \x7b",
    "        return \x7b",
    "          'request': function(config) \x7b",
    "            let host = getHost(config.url);",
    "            if (host && host !== urlBaseHost) \x7b",
    "              return config;",
    "            \x7d",
    "",
    "            if (LoopBackAuth.accessTokenId) \x7b",
    "              config.headers[authHeader] = LoopBackAuth.accessTokenId;",
    "            \x7d else if (config.__isGetCurrentUser__) \x7b",
    "              let res = \x7b",
    "                body: \x7b error: \x7b status: 401 \x7d \x7d,",
    "                status: 401,",
    "                config: config,",
    "                headers: function() \x7b return undefined; \x7d,",
    "              \x7d;",
    "              return $q.reject(res);",
    "            \x7d",
    "            return config || $q.when(config);",
    "          \x7d,",
    "        \x7d;",
    "      \x7d]);",
    ""]]

def providerName : Template := [.slot ["services", "resource"] [], .text "Provider"]

def providerTag (tag : String) : Template :=
  [.lines [tag], .slot ["module_name"] [], .text "."] ++ providerName

def providerComment : Template :=
  [.lines ["  /**", "   * @ngdoc object"]] ++
  providerTag "   * @name " ++
  providerTag "   * @header " ++
  [.lines ["   * @description", "   * Use `"]] ++ providerName ++
  [.text "` to change the global configuration",
  .lines ["   * settings used by all models.", "   */"]]

def provider : Template := [
  .given ["comments"] providerComment,
  .lines [
    "  module",
    "    .provider("],
  .slot ["services", "resource"] [.literal],
  .text ", function LoopBackResourceProvider() \x7b",
  .lines [
    "      this.setAuthHeader = function(header) \x7b",
    "        authHeader = header;",
    "      \x7d;",
    "",
    "      this.getAuthHeader = function() \x7b",
    "        return authHeader;",
    "      \x7d;",
    "",
    "      this.setUrlBase = function(url) \x7b",
    "        urlBase = url;",
    "        urlBaseHost = getHost(urlBase) || location.host;",
    "      \x7d;",
    "",
    "      this.getUrlBase = function() \x7b",
    "        return urlBase;",
    "      \x7d;",
    "",
    "      this.$get = ['$resource', function($resource) \x7b",
    "        let LoopBackResource = function(url, params, actions) \x7b",
    "          let resource = $resource(url, params, actions);",
    "",
    "          resource.prototype.$save = function(success, error) \x7b",
    "            let result = resource.upsert.call(this, \x7b\x7d, this, success, error);",
    "            return result.$promise || result;",
    "          \x7d;",
    "          return resource;",
    "        \x7d;",
    "",
    "        LoopBackResource.getUrlBase = function() \x7b",
    "          return urlBase;",
    "        \x7d;",
    "",
    "        LoopBackResource.getAuthHeader = function() \x7b",
    "          return authHeader;",
    "        \x7d;",
    "",
    "        return LoopBackResource;",
    "      \x7d];",
    "    \x7d);",
    ""]]

def moduleComment : Template := [
  .lines ["", "  /**", "   * @ngdoc overview", "   * @name "], .slot ["module_name"] [],
  .lines ["   * @module", "   * @description", "   *", "   * The `"], .slot ["module_name"] [],
  .text "` module provides services for interacting with",
  .lines ["   * the models exposed by the LoopBack server via the REST API.", "   */"]]

def header : Template := [
  .text "(function(window, angular, undefined) \x7b",
  .lines ["  'use strict';", "", "  let urlBase = "], .slot ["url_base"] [.literal], .text ";",
  .lines [
    "  let authHeader = 'authorization';",
    "",
    "  function getHost(url) \x7b",
    "    let m = url.match(/^(?:https?:)?\\/\\/([^\\/]+)/);",
    "    return m ? m[1] : null;",
    "  \x7d",
    "",
    "  let urlBaseHost = getHost(urlBase) || location.host;"],
  .given ["comments"] moduleComment,
  .lines ["  let module = angular.module("], .slot ["module_name"] [.literal],
  .text ", ['ngResource']);"]

def footer : Template := [
  .given ["include_common_modules"]
    ([.lines ["", ""]] ++ auth ++ [.lines ["", ""]] ++ provider),
  .lines ["\x7d)(window, window.angular);", ""]]

def services : Template :=
  header ++ [.each "model" ["models"] (.lines ["", ""] :: resource)] ++ footer

def servicesName : String := "services.js.tera"

def templates : List (String × Template) :=
  [(servicesName, services), ("model/resource.js.tera", resource), ("common/auth.js.tera", auth),
    ("common/resource_provider.js.tera", provider)]

end AngularClient.Module

namespace AngularClient.Template

structure Failure where
  name : String
  obstruction : Obstruction
  deriving DecidableEq

def Failure.message (f : Failure) : String := s!"Failed to render template '{f.name}'"

def renderNamed (name : String) (context : Dictionary Json) : Except Failure (List Char) :=
  match Module.templates.lookup name with
  | some template => (render context template).mapError (⟨name, ·⟩)
  | none => .error ⟨name, .unknown⟩

end AngularClient.Template
